import ApiShape.Api.Operation
import ApiShape.Proofs.Converter.Agreement
import ApiShape.Proofs.Converter.Refusals
import ApiShape.Proofs.Declaration.Construction
import ApiShape.Proofs.Schema.Faithful
import ApiShape.Proofs.Schema.Rendering

/-!
# Raw bodies

A body of a media type that carries no structured data is published as raw bytes where its type is a
stream or a record of a single stream, and the decoder binds raw bodies to just these. What is
published looks through wrappers, what is bound does not.

* `TakesRaw` — the types that raw bodies are bound to: `wp_decodeRaw`, `decodeRaw_refused`.
* `schemaOf?_uses_ne_binary` — no type but a wrapper gets a converter with the schema of raw bytes.
* `Translates.eq_binary_iff` — so a type is translated to that schema exactly if its wrappers end at
  a stream.
* **`raw_body_published`** — a body is published as raw bytes exactly if raw bodies are bound to its
  type, unless the type wraps a stream.
* **`wrapped_stream_refused`** — then it is published as raw bytes and none is bound.
-/

namespace ApiShape

open ApiShape.Action

variable {env : Environment} {d : Descriptor} {s : State} {a : TypeExpr} {t : Descriptor}

/-! ## What raw bodies are bound to -/

/-- Raw bodies are bound to the type: it is a stream or a record of a single stream. -/
def TakesRaw (env : Environment) (d : Descriptor) : Prop :=
  env.kind d = .stream ∨ ∃ only, Decoder.onlyStream? env d = .ok (some only)

/-- The constructor of the record behind the type, if there is one, does not fail as if nothing
handled a type. -/
def ConstructorFits (env : Environment) (d : Descriptor) : Prop :=
  ∀ r, env.record? d.origin = some r →
    ∀ values e, r.construct d.origin values = .error e → ¬ e.IsUnhandled

namespace Decoder

variable {dec : Decoder} {data : List UInt8} {contentType : Option String}

/-- The content of a body is adapted to every type of stream. -/
theorem wp_adapt_content (dec : Decoder) (name : String) (d : Descriptor)
    (contentType : Option String) (stream : Stream) (s : State) :
    wp (dec.adapt name d (.content contentType stream)) (fun _ _ => True) (fun _ _ => False) s := by
  unfold adapt
  simp only [Value.content?]
  split
  · trivial
  · trivial
  · trivial
  · trivial

/-- A type with an only stream is a record of one field. -/
theorem fields_of_onlyStream {only : Field} (h : onlyStream? env d = .ok (some only)) :
    env.kind d = .object ∧ env.fields d = .ok [only] := by
  unfold onlyStream? at h
  split at h
  · cases h
  · next hkind =>
    obtain ⟨fields, hfields, h⟩ := bind_eq_ok_iff.1 h
    split at h
    · split at h
      · cases h
        exact ⟨not_not.1 hkind, hfields⟩
      · cases h
    · cases h

/-- Every content type will do, so the type alone decides what is done with the bytes. -/
theorem decodeRaw_eq (hnull : a ≠ .null) (ht : describe a = .ok t) :
    dec.decodeRaw a (.plainBytes data) contentType [] =
      (let content : Value := .content contentType { content := data }
      if dec.env.kind t = .stream then dec.adapt "body" t.nonNull content
      else do
        match ← Action.ofExcept (onlyStream? dec.env t) with
        | none => throw (.unhandled t.nonNull "binary bodies need a single stream field")
        | some only =>
          let v ← dec.adapt only.wireName only.type content
          Action.ofExcept (dec.env.construct t.origin [(only.key, v)])) := by
  unfold decodeRaw described
  rw [if_neg hnull, ht]
  rfl

/-- A type that takes raw bodies refuses none as if nothing handled it. -/
theorem wp_decodeRaw (hnull : a ≠ .null) (ht : describe a = .ok t) (htakes : TakesRaw dec.env t)
    (hfits : ConstructorFits dec.env t) :
    wp (dec.decodeRaw a (.plainBytes data) contentType []) (fun _ _ => True)
      (fun e _ => ¬ e.IsUnhandled) s := by
  rw [decodeRaw_eq hnull ht]
  simp only
  split
  · exact wp_mono (wp_adapt_content _ _ _ _ _ _) (fun _ _ _ => trivial)
      fun _ _ hfalse => hfalse.elim
  · next hkind =>
    obtain ⟨only, honly⟩ := htakes.resolve_left hkind
    rw [honly, wp_bind, wp_ofExcept_ok]
    simp only [wp_bind]
    refine wp_mono (wp_adapt_content _ _ _ _ _ _) (fun v s₁ _ => ?_) fun _ _ hfalse => hfalse.elim
    obtain ⟨r, hrecord⟩ := Environment.exists_record_of_fields (fields_of_onlyStream honly).2
    cases hmade : dec.env.construct t.origin [(only.key, v)] with
    | ok v => trivial
    | error e =>
      rw [Environment.construct_eq hrecord] at hmade
      exact hfits r hrecord _ e hmade

/-- A wrapper takes no raw bodies, whatever it wraps. -/
theorem not_takesRaw_of_wrapper (hkind : env.kind d = .wrapper) : ¬ TakesRaw env d := by
  rintro (hstream | ⟨only, honly⟩)
  · cases hkind.symm.trans hstream
  · cases hkind.symm.trans (fields_of_onlyStream honly).1

/-- A type that takes no raw bodies refuses every one. -/
theorem decodeRaw_refused (hnull : a ≠ .null) (ht : describe a = .ok t)
    (htakes : ¬ TakesRaw dec.env t) {only : Option Field}
    (honly : onlyStream? dec.env t = .ok only) :
    ((dec.decodeRaw a (.plainBytes data) contentType []).run s).1 =
      .error (.unhandled t.nonNull "binary bodies need a single stream field") := by
  have hkind : dec.env.kind t ≠ .stream := fun hstream => htakes (.inl hstream)
  obtain rfl : only = none := Option.eq_none_iff_forall_not_mem.2 fun only hmem =>
    htakes (.inr ⟨only, by rw [honly, hmem]⟩)
  rw [decodeRaw_eq hnull ht]
  simp only [if_neg hkind, honly]
  rfl

end Decoder

/-! ## What is published as raw bytes -/

/-- No converter that a program starts with publishes raw bytes. -/
theorem schema_leafConverters_ne_binary {zones : Time.ZoneDirectory} {lenient : Bool}
    {c : Converter} (h : c ∈ leafConverters zones lenient) : c.schema ≠ .binary := by
  have hnone : (leafConverters zones lenient).all (fun c => !c.schema.same .binary) = true := rfl
  intro hbinary
  have hsame := List.all_eq_true.1 hnone c h
  rw [hbinary] at hsame
  cases hsame

/-- No more does one that is made for an enumeration. -/
theorem Registry.schema_standard_ne_binary {zones : Time.ZoneDirectory} {lenient : Bool} :
    ((Registry.standard zones lenient).converterOf? env d).map (·.schema) ≠ some .binary := by
  intro h
  obtain ⟨c, hc, hschema⟩ := Option.map_eq_some_iff.1 h
  unfold Registry.converterOf? at hc
  split at hc
  · next i hentry =>
    cases hc
    rcases mem_of_installed hentry with hmem | hempty
    · exact schema_leafConverters_ne_binary hmem hschema
    · cases hempty
  · obtain ⟨⟨ref, e, strict⟩, -, rfl⟩ := Option.map_eq_some_iff.1 hc
    cases hschema

/-- A type that is no wrapper is its own innermost type. -/
theorem Innermost.eq_nonNull {leaf : Descriptor} (h : Innermost env d leaf)
    (hkind : env.kind d ≠ .wrapper) : leaf = d.nonNull :=
  h.unique ⟨.refl d, hkind⟩

/-- The wrappers of the type, if it has any, end at a stream. -/
def EndsAtStream (env : Environment) (d : Descriptor) : Prop :=
  ∃ leaf, Innermost env d leaf ∧ env.kind leaf = .stream

theorem endsAtStream_iff (hkind : env.kind d ≠ .wrapper) :
    EndsAtStream env d ↔ env.kind d = .stream := by
  constructor
  · rintro ⟨leaf, hleaf, hstream⟩
    obtain rfl := hleaf.eq_nonNull hkind
    exact hstream
  · exact fun hstream => ⟨d.nonNull, ⟨.refl d, hkind⟩, hstream⟩

/-- A wrapper ends at a stream exactly if what it wraps does. -/
theorem endsAtStream_inner {inner : Descriptor} (hkind : env.kind d = .wrapper)
    (h : env.unwrap d = .ok inner) : EndsAtStream env d ↔ EndsAtStream env inner := by
  constructor
  · rintro ⟨leaf, ⟨hway, hleaf⟩, hstream⟩
    cases hway with
    | refl => exact absurd hkind hleaf
    | step _ h' hrest =>
      obtain rfl := Except.ok.inj (h.symm.trans h')
      exact ⟨leaf, ⟨hrest, hleaf⟩, hstream⟩
  · rintro ⟨leaf, ⟨hway, hleaf⟩, hstream⟩
    exact ⟨leaf, ⟨.step hkind h hway, hleaf⟩, hstream⟩

/-- The type is a wrapper around a stream, at any depth. -/
def WrapsStream (env : Environment) (d : Descriptor) : Prop :=
  env.kind d = .wrapper ∧ EndsAtStream env d

theorem takesRaw_or_endsAtStream (h : ¬ WrapsStream env d) :
    TakesRaw env d ∨ EndsAtStream env d ↔ TakesRaw env d := by
  refine ⟨fun htakes => htakes.elim id fun hends => ?_, .inl⟩
  have hkind : env.kind d ≠ .wrapper := fun hkind => h ⟨hkind, hends⟩
  exact .inl ((endsAtStream_iff hkind).1 hends)

/-- **A type is translated to raw bytes exactly if its wrappers end at a stream**, where no other
type has that schema. Induction on the translation, along the wrappers. -/
theorem Translates.eq_binary_iff {known : Descriptor → Option Schema}
    {names : Descriptor → Option String} {schema : Schema}
    (hknown : ∀ d, env.kind d ≠ .wrapper → known d.nonNull ≠ some .binary)
    (h : Translates env known names d schema) : schema = .binary ↔ EndsAtStream env d := by
  have hother : ∀ {d schema}, env.kind d ≠ .stream → env.kind d ≠ .wrapper → schema ≠ .binary →
      (schema = Schema.binary ↔ EndsAtStream env d) := fun hstream hwrapper hne =>
    ⟨fun h => absurd h hne, fun h => absurd ((endsAtStream_iff hwrapper).1 h) hstream⟩
  induction h with
  | stream hkind => exact iff_of_true rfl ((endsAtStream_iff (by simp [hkind])).2 hkind)
  | wrapper hkind hinner _ ih => exact ih.trans (endsAtStream_inner hkind hinner).symm
  | @inline d schema hstream hwrapper hschema =>
    exact hother hstream hwrapper fun heq => hknown d hwrapper (heq ▸ hschema)
  | array hkind | map hkind => exact hother (by simp [hkind]) (by simp [hkind]) nofun
  | named hkind =>
    rcases hkind with hkind | hkind <;> exact hother (by simp [hkind]) (by simp [hkind]) nofun

/-- Only the binary schema is published as it is. -/
theorem Schema.render_eq_binary_iff {refBase : String} {schema : Schema} :
    schema.render refBase = Schema.binary.render refBase ↔ schema = .binary := by
  refine ⟨fun h => ?_, fun h => h ▸ rfl⟩
  have hsame : (Schema.binary.render refBase).Equals (Schema.binary.render refBase) :=
    (render_equals_iff refBase _ _).2 (.primitive _ _ _)
  have hequals : schema.Equals .binary := (render_equals_iff refBase _ _).1 (h ▸ hsame)
  cases hequals
  rfl

namespace Api

variable {api : Api} {mediaType : String}

/-- A published request body with one schema. -/
def bodyOf (mediaType : String) (schema : Document) (t : Descriptor) : Document :=
  .object [("content", .object [(mediaType, .object [("schema", schema)])]),
    ("required", .flag !t.nullable)]

/-- Bodies of one media type are equal just when their schemas are. -/
theorem bodyOf_inj {schema schema' : Document} :
    bodyOf mediaType schema t = bodyOf mediaType schema' t ↔ schema = schema' := by
  simp [bodyOf]

theorem described_eq (ht : describe a = .ok t) : (described a : Action Descriptor) = pure t := by
  unfold described
  rw [ht]
  rfl

/-- The schema of a body without structured data is that of raw bytes where raw bodies are bound to
the type, and where its wrappers end at a stream. -/
theorem wp_bodySchema (ht : describe a = .ok t) (hmedia : isStructured mediaType = false)
    (hknown : ∀ d, api.env.kind d ≠ .wrapper →
      s.registry.schemaOf? api.env d.nonNull ≠ some .binary) :
    wp (api.bodySchema a mediaType)
      (fun x _ => ∃ schema only, x = Schema.render api.settings.refBase schema ∧
        Decoder.onlyStream? api.env t = .ok only ∧
        (schema = .binary ↔ TakesRaw api.env t ∨ EndsAtStream api.env t))
      (fun _ _ => True) s := by
  -- only a stream is translated as binary where no other type is registered as such
  have hbuild : wp (api.blueprint.build t) (fun schema _ => schema = .binary ↔
      EndsAtStream api.env t) (fun _ _ => True) s := by
    have hgrows : wp (api.blueprint.build t) (api.blueprint.Grown _ (fun _ => True) s t)
        (api.blueprint.Restored s) s :=
      Blueprint.wp_build (fun _ _ _ _ => trivial) trivial rfl
    exact wp_mono hgrows (fun _ _ hgrown => hgrown.2.eq_binary_iff hknown) fun _ _ _ => trivial
  unfold bodySchema
  rw [if_neg (by simp [hmedia]), described_eq ht, pure_bind]
  cases honly : Decoder.onlyStream? api.env t with
  | error e => trivial
  | ok only =>
    rw [wp_bind, wp_ofExcept_ok]
    cases only with
    | some only => exact ⟨.binary, some only, rfl, rfl, iff_of_true rfl (.inl (.inr ⟨only, honly⟩))⟩
    -- no single stream field: the body is published as its type is translated
    | none =>
      unfold schema build
      simp only [described_eq ht, pure_bind, wp_bind, wp_pure]
      refine wp_mono hbuild (fun schema s' hschema => ?_) fun _ _ _ => trivial
      refine ⟨schema, none, rfl, rfl, hschema.trans ⟨.inr, ?_⟩⟩
      rintro ((hstream | ⟨only, hsome⟩) | hends)
      · exact (endsAtStream_iff (by simp [hstream])).2 hstream
      · cases honly.symm.trans hsome
      · exact hends

/-- A request body has the schema of its one media type. -/
theorem wp_requestBody (ht : describe a = .ok t) (hmedia : isStructured mediaType = false)
    (hknown : ∀ d, api.env.kind d ≠ .wrapper →
      s.registry.schemaOf? api.env d.nonNull ≠ some .binary) :
    wp (api.requestBody a [mediaType])
      (fun doc _ => ∃ schema only,
        doc = bodyOf mediaType (Schema.render api.settings.refBase schema) t ∧
        Decoder.onlyStream? api.env t = .ok only ∧
        (schema = .binary ↔ TakesRaw api.env t ∨ EndsAtStream api.env t))
      (fun _ _ => True) s := by
  unfold requestBody
  simp only [described_eq ht, List.mapM_cons, List.mapM_nil, wp_bind, wp_pure]
  refine wp_mono (wp_bodySchema ht hmedia hknown) ?_ fun _ _ _ => trivial
  rintro _ _ ⟨schema, only, rfl, hfacts⟩
  exact ⟨schema, only, rfl, hfacts⟩

/-- Whatever has been built and decoded, no type but a wrapper gets a converter for raw bytes. -/
theorem schemaOf?_uses_ne_binary (api : Api) (zones : Time.ZoneDirectory) (uses : List Use)
    {d : Descriptor} (hkind : api.env.kind d ≠ .wrapper) :
    (uses.foldl (Use.run api.env) (api.start zones)).registry.schemaOf? api.env d ≠
      some .binary := by
  have hconsistent := (consistent_of_derived_eq_empty api.env (s := api.start zones) rfl).uses uses
  rw [Registry.schemaOf?_eq, hconsistent.registry d hkind]
  exact Registry.schema_standard_ne_binary

/-- **A body is published as raw bytes exactly where raw bodies are bound**, wrappers around streams
aside. After any history of uses on the converters that a program starts with: if the request body
of a type is published for a media type without structured data, it has one schema; and unless the
type is a wrapper around a stream, the schema is that of raw bytes exactly if no raw body is refused
as if nothing handled the type. A wrapper around a stream is published as raw bytes, and every raw
body is refused. -/
theorem raw_body_published (api : Api) (zones : Time.ZoneDirectory) (uses : List Use)
    (hnull : a ≠ .null) (ht : describe a = .ok t) (hmedia : isStructured mediaType = false)
    (hfits : ConstructorFits api.env t) {doc : Document} {s' : State}
    (hrun : (api.requestBody a [mediaType]).run (uses.foldl (Use.run api.env) (api.start zones)) =
      (.ok doc, s')) :
    let binary := bodyOf mediaType (Schema.binary.render api.settings.refBase) t
    (∃ schema, doc = bodyOf mediaType (Schema.render api.settings.refBase schema) t) ∧
    (¬ WrapsStream api.env t → ∀ data contentType s, doc = binary ↔
      ∀ e, ((api.decoder.decodeRaw a (.plainBytes data) contentType []).run s).1 = .error e →
        ¬ e.IsUnhandled) ∧
    (WrapsStream api.env t → doc = binary ∧ ∀ data contentType s, ∃ e,
      ((api.decoder.decodeRaw a (.plainBytes data) contentType []).run s).1 = .error e ∧
        e.IsUnhandled) := by
  intro binary
  obtain ⟨schema, only, rfl, honly, hbinary⟩ := post_of_run (wp_requestBody ht hmedia
    fun d hkind => schemaOf?_uses_ne_binary api zones uses hkind) hrun
  have hdoc : bodyOf mediaType (Schema.render api.settings.refBase schema) t = binary ↔
      TakesRaw api.env t ∨ EndsAtStream api.env t :=
    bodyOf_inj.trans (Schema.render_eq_binary_iff.trans hbinary)
  have hrefused : ¬ TakesRaw api.env t → ∀ data contentType s, ∃ e,
      ((api.decoder.decodeRaw a (.plainBytes data) contentType []).run s).1 = .error e ∧
        e.IsUnhandled := fun htakes _ _ _ =>
    ⟨_, Decoder.decodeRaw_refused hnull ht htakes honly, _, _, _, rfl⟩
  refine ⟨⟨schema, rfl⟩, fun hplain data contentType s => ?_, fun hwraps => ?_⟩
  · -- plain types: published as binary just when decoding takes the body
    rw [hdoc, takesRaw_or_endsAtStream hplain]
    constructor
    · intro htakes e he
      exact fail_of_run (Decoder.wp_decodeRaw hnull ht htakes hfits) (Prod.ext he rfl)
    · intro h
      by_contra htakes
      obtain ⟨e, he, hunhandled⟩ := hrefused htakes data contentType s
      exact h e he hunhandled
  · -- a wrapper around a stream: published as its inner type, but its fields are never listed
    exact ⟨hdoc.2 (.inr hwraps.2), hrefused (Decoder.not_takesRaw_of_wrapper hwraps.1)⟩

open ApiShape.Sample

namespace Sample

/-- Photos have an image and nothing else. Scans are wrappers of bytes. -/
def gallery : Api where
  env := ⟨[
    dataclass "Photo" [{ name := "image", type := .named (.builtin .bytes) }],
    wrapperClass "Scan" (.named (.builtin .bytes)) []]⟩

end Sample

open Api.Sample

/-- Photos are published as raw bytes and bound. -/
theorem raw_body_published_photo :
    let a : TypeExpr := classExpr "Photo"
    let t : Descriptor := classType "Photo"
    let s := gallery.start .standard
    let doc := bodyOf "image/png" (Schema.binary.render Schema.standardRefBase) t
    ((gallery.requestBody a ["image/png"]).run s).1 = .ok doc ∧ ¬ WrapsStream gallery.env t ∧
    ∀ data contentType s e,
      ((gallery.decoder.decodeRaw a (.plainBytes data) contentType []).run s).1 = .error e →
        ¬ e.IsUnhandled := by
  intro a t s doc
  have hfits : ConstructorFits gallery.env t := by
    rintro r ⟨⟩ values e hmade -
    -- the class neither refuses fields nor has defaults
    rcases RecordDef.construct_error_cases (show _ = Constructor.generated .ok from rfl) hmade with
      ⟨_, ⟨⟩⟩ | ⟨decl, hdecl, hdefault⟩
    rw [List.mem_singleton.1 hdecl] at hdefault
    cases hdefault
  have hplain : ¬ WrapsStream gallery.env t := fun h => absurd h.1 (by decide)
  have hrun : ((gallery.requestBody a ["image/png"]).run s).1 = .ok doc := rfl
  obtain ⟨-, hpublished, -⟩ := raw_body_published gallery .standard [] (a := a) (t := t)
    (by decide) rfl (by decide) hfits (Prod.ext hrun rfl)
  exact ⟨hrun, hplain, fun data contentType s => (hpublished hplain data contentType s).1 rfl⟩

/-- **A wrapper of bytes is published as raw bytes and not bound**: a body for scans is refused as
if nothing handled them, although they have a single stream field. -/
theorem wrapped_stream_refused :
    let a : TypeExpr := classExpr "Scan"
    let t : Descriptor := classType "Scan"
    let s := gallery.start .standard
    ((gallery.requestBody a ["image/png"]).run s).1 =
      .ok (bodyOf "image/png" (Schema.binary.render Schema.standardRefBase) t) ∧
    ((gallery.decoder.decodeRaw a (.plainBytes [97]) (some "image/png") []).run s).1 =
      .error (.unhandled t "binary bodies need a single stream field") :=
  ⟨rfl, rfl⟩

end Api

end ApiShape
