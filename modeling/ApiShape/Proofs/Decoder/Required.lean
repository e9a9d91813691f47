import ApiShape.Proofs.Converter.Refusals
import ApiShape.Proofs.Decoder.Rules
import ApiShape.Proofs.Schema.Faithful

/-!
# What decoding demands is published

A decoding that fails for want of a value names a field of the record that does not admit null. The
schema of the record lists these fields as required, private ones aside, which it does not show at
all.

* **`Decodes.missing`** — where the name in the error comes from. Parsers, constructors and
  factories of defaults belong to the program. A call that the decoding makes to one of them may
  raise the error (`RecordRaises`); nothing else does.
* **`RequiresOf`** — what the schema of a record requires. It depends on the fields alone.
* `wp_build_requires`, `Faithful.requires` — the table holds such a schema, after the build that
  names the record and after any run without collisions.
* **`decode_demands_published`** — both together.
* **`private_field_demanded`** — a private field is demanded although no schema shows it.
-/

namespace ApiShape

open ApiShape.Action

variable {env : Environment} {s s' : State} {d : Descriptor}

/-! ## Errors that the program raises itself

A decoding calls functions of the program: parsers, constructors, and factories of defaults. What
one of these calls raises is the program's own doing. -/

/-- In asking for the converter of the type, the constructor of a wrapper raises the error: that of
the type itself or of one further inside, called with the default of what it wraps. -/
inductive Environment.DefaultRaises (env : Environment) (e : Error) :
    (budget : Nat) → Descriptor → State → Prop
  | here {budget : Nat} {d inner : Descriptor} {s s₁ : State} {below : Installed} {v : Value}
      {only : Field} (hkind : env.kind d = .wrapper) (hnew : s.derived.get? d.nonNull = none)
      (hunwrap : env.unwrap d = .ok inner)
      (hbelow : (env.converterFor budget inner).run s = (.ok below, s₁))
      (hdefault : below.converter.default = some v) (honly : env.fields d = .ok [only])
      (hraises : env.construct d.origin [(only.key, v)] = .error e) :
      DefaultRaises env e (budget + 1) d s
  | inside {budget : Nat} {d inner : Descriptor} {s : State} (hkind : env.kind d = .wrapper)
      (hnew : s.derived.get? d.nonNull = none) (hunwrap : env.unwrap d = .ok inner)
      (h : DefaultRaises env e budget inner s) : DefaultRaises env e (budget + 1) d s

theorem Error.IsUnhandled.ne_missing {e : Error} {w : String} (h : e.IsUnhandled) :
    e ≠ .requiredField w := by
  obtain ⟨_, _, _, rfl⟩ := h
  exact nofun

/-- A wrapper that cannot be built for want of a value has a constructor that says so. -/
theorem exists_construct_of_wrap {v : Value} {w : String}
    (h : env.wrap d.nonNull v = .error (.requiredField w)) :
    ∃ only, env.fields d = .ok [only] ∧
      env.construct d.origin [(only.key, v)] = .error (.requiredField w) := by
  unfold Environment.wrap at h
  split at h
  · cases h
  · rcases bind_eq_error_iff.1 h with hfields | ⟨fields, hfields, hmade⟩
    · exact absurd rfl (Environment.isUnhandled_of_fields hfields).ne_missing
    · split at hmade
      · exact ⟨_, hfields, hmade⟩
      · cases hmade

/-- **Asking for a converter fails for want of a value only if the constructor of a wrapper raises
that.** Induction on the budget, one wrapper after the other. -/
theorem wp_converterFor_missing {w : String} (budget : Nat) : ∀ (d : Descriptor) (s : State),
    wp (env.converterFor budget d) (fun _ _ => True)
      (fun e _ => e = .requiredField w → env.DefaultRaises e budget d s) s := by
  induction budget with
  | zero =>
    intro _ _ hmissing
    cases hmissing
  | succ budget ih =>
    intro d s
    refine wp_converterFor_succ ?_ (fun _ _ _ => trivial) ?_ ?_
    -- what is no wrapper is resolved, or nothing handles it
    · intro _
      simp only [Action.resolve, wp_bind, wp_get]
      rcases s.registry.resolve_cases env d.nonNull with ⟨r, i, hresolve, -⟩ | ⟨hresolve, -⟩
      · rw [hresolve]
        trivial
      · rw [hresolve, wp_ofExcept_error]
        rintro ⟨⟩
    · intro hkind e hunwrap hmissing
      rcases Environment.error_of_unwrap hkind hunwrap with hunhandled | ⟨rfl, -⟩
      · exact absurd hmissing hunhandled.ne_missing
      · cases hmissing
    · intro hkind hnew inner hunwrap
      refine wp_mono (wp_and (wp_run _ s) (ih inner s)) ?_ ?_
      · rintro below s₁ ⟨hbelow, -⟩
        cases hmap : below.converter.map (env.wrap d.nonNull) d.nonNull with
        | ok c => exact fun _ => trivial
        | error e =>
          rintro rfl
          obtain ⟨v, hdefault, hwrap, -⟩ := error_of_map hmap
          obtain ⟨only, honly, hraises⟩ := exists_construct_of_wrap hwrap
          exact .here hkind hnew hunwrap hbelow hdefault honly hraises
      · rintro e s₁ ⟨-, hinside⟩ hmissing
        -- an error about the wrapped type would have been replaced
        unfold Environment.innerUnhandled at hmissing ⊢
        split at hmissing
        · cases hmissing
        · exact .inside hkind hnew hunwrap (hinside hmissing)

namespace Decoder

variable {dec : Decoder} {f : Field} {fields : List Field} {w : String}

/-- In binding the field to the raw value, a function of the program that is called for it raises
the error: the factory of its default, where there is no value; the parser of the converter that its
texts get, on a text that comes after others which have been converted; or, when that converter is
asked for, the constructor of a wrapper. -/
inductive FieldRaises (dec : Decoder) (f : Field) (raw : Value) (s : State) (e : Error) : Prop
  | factory (hdefault : f.default = some (.factory (.error e))) (hraw : raw.first = .null)
      (hitems : dec.env.kind f.type = .array → raw.items = [])
  | parser {d : Descriptor} {i : Installed} {s₁ : State} {before after : List Value} {text : String}
      (htype : textType? dec.env f = some d)
      (hconverter : (dec.env.converterFor dec.budget d).run s = (.ok i, s₁))
      (hitems : raw.items = before ++ .text text :: after)
      (hbefore : ∀ v ∈ before, ∃ x, Converts f d i.converter v (.ok x))
      (hfirst : dec.env.kind f.type ≠ .array → before = [])
      (hraises : i.converter.parse text = .error e)
  | wrapper {d : Descriptor} (htype : textType? dec.env f = some d)
      (h : dec.env.DefaultRaises e dec.budget d s)

/-- In decoding the record from the raw values, a function of the program raises the error: one that
is called in binding a field, after the fields before it have been bound, or the constructor of the
record, called with the values of all fields. -/
inductive RecordRaises (dec : Decoder) (d : Descriptor) (fields : List Field)
    (raw : Table String Value) (s : State) (e : Error) : Prop
  | field {before after : List Field} {f : Field} {arguments : List (String × Value)} {s₁ : State}
      (hsplit : fields = before ++ f :: after)
      (hbefore : Each (BindsArgument dec raw) before s arguments s₁)
      (h : FieldRaises dec f (rawOf raw f) s₁ e)
  | constructor {arguments : List (String × Value)} {s₁ : State}
      (hbound : Each (BindsArgument dec raw) fields s arguments s₁)
      (h : dec.env.construct d.origin (Table.ofList arguments).entries = .error e)

/-! ## Fields -/

/-- The field has neither a default nor null to be bound to, and is called so on the wire. -/
structure Demands (f : Field) (wireName : String) : Prop where
  default : f.default = none
  nonNull : f.type.nullable = false
  wireName : f.wireName = wireName

/-- A default that is not there is one that a factory fails to make. -/
theorem eq_factory_of_value {default : Default} {e : Error} (h : default.value = .error e) :
    default = .factory (.error e) := by
  rcases default.value_cases with ⟨v, hvalue⟩ | ⟨e', rfl⟩
  · cases hvalue.symm.trans h
  · cases h
    rfl

/-- An absent value is missed by a field that demands one, or its factory says so. -/
theorem Absent.missing {fallback : Option Value}
    (h : Absent f fallback (.error (.requiredField w))) :
    Demands f w ∨ f.default = some (.factory (.error (.requiredField w))) := by
  cases h with
  | declared hdefault hvalue => exact .inr (eq_factory_of_value hvalue ▸ hdefault)
  | required hdefault hnull _ => exact .inl ⟨hdefault, hnull, rfl⟩

/-- A text fails for want of a value only if the parser raises that. -/
theorem Converts.parse_of_missing {c : Converter} {raw : Value}
    (h : Converts f d c raw (.error (.requiredField w))) :
    ∃ text, raw = .text text ∧ c.parse text = .error (.requiredField w) := by
  cases h with
  | raised h => exact ⟨_, rfl, (Converter.error_of_convert h).1⟩

/-- A value that is no stream is refused, and that is all that can fail. -/
theorem adapt_ne_missing {name : String} {v : Value} :
    (dec.adapt name d v).run s ≠ (.error (.requiredField w), s') := by
  intro h
  unfold adapt at h
  split at h
  · cases h
  · split at h
    · split at h <;> cases h
    · split at h <;> cases h
    · cases h
    · cases h

/-- Collecting values misses none. -/
theorem collect_ne_missing {c : Container} {values : List Value} :
    Value.collect c values ≠ .error (.requiredField w) := by
  intro h
  cases c with
  | list | tuple => cases h
  | set | frozenset =>
    unfold Value.collect Value.setOf at h
    simp only at h
    split at h <;> cases h

/-- All items before the one that fails have been converted. -/
theorem converts_of_each {c : Converter} {item : Descriptor} {raw values : List Value}
    (h : Each (fun v s result s' => s' = s ∧ Converts f item c v result) raw s values s') :
    ∀ v ∈ raw, ∃ x, Converts f item c v (.ok x) := by
  induction h with
  | nil => exact fun _ hv => (List.not_mem_nil hv).elim
  | cons hx _ ih =>
    intro v hv
    rcases List.mem_cons.1 hv with rfl | hv
    · exact ⟨_, hx.2⟩
    · exact ih v hv

/-- Items fail for want of a value only if a parser or the constructor of a wrapper raises that. -/
theorem BindsItems.raises {item : Descriptor} {raw : Value}
    (harray : dec.env.kind f.type = .array) (hitem : dec.env.item f.type.nonNull = .ok item)
    (h : BindsItems dec f item raw.items s (.error (.requiredField w)) s') :
    FieldRaises dec f raw s (.requiredField w) := by
  cases h with
  | streams _ h =>
    cases h with
    | firstFailure _ _ hx => exact absurd hx adapt_ne_missing
  | unresolved hkind hconverter =>
    exact .wrapper (textType?_of_array harray hitem hkind)
      (fail_of_run (wp_converterFor_missing _ _ _) hconverter rfl)
  | converted hkind hconverter h =>
    cases h with
    | firstFailure hsplit hbefore hx =>
      obtain ⟨text, rfl, hparse⟩ := hx.2.parse_of_missing
      exact .parser (textType?_of_array harray hitem hkind) hconverter hsplit
        (converts_of_each hbefore) (fun hne => absurd harray hne) hparse

/-- No items come from no raw values. -/
theorem BindsItems.eq_nil {item : Descriptor} {raw : List Value}
    (h : BindsItems dec f item raw s (.ok []) s') : raw = [] := by
  cases h with
  | streams _ h | converted _ _ h =>
    cases h with
    | all h =>
      cases h
      rfl

/-- **A field that cannot be bound for want of a value demands one**, or else a function of the
program that is called for it says so. -/
theorem Binds.missing {raw : Value} (h : Binds dec f raw s (.error (.requiredField w)) s') :
    Demands f w ∨ FieldRaises dec f raw s (.requiredField w) := by
  cases h with
  | stream hkind h =>
    cases h with
    | absent hraw h =>
      exact h.missing.imp_right fun hdefault => .factory hdefault hraw (by simp [hkind])
    | adapted _ h => exact absurd h adapt_ne_missing
  | array harray h =>
    -- an array is never missing: without values it is empty
    cases h with
    | failed hitem hitems => exact .inr (hitems.raises harray hitem)
    | collected _ hitems h =>
      generalize hx : (Except.error (.requiredField w) : Except Error Value) = x at h
      cases h with
      | declared hdefault hvalue =>
        have hnone := hitems.eq_nil
        have hfirst : raw.first = .null := by rw [Value.first, hnone, List.headD_nil]
        exact .inr (.factory (eq_factory_of_value (hvalue.trans hx.symm) ▸ hdefault) hfirst
          fun _ => hnone)
      | null | empty => cases hx
      | items => exact absurd hx.symm collect_ne_missing
  | scalar hstream harray h =>
    have htype := textType?_of_scalar hstream harray
    cases h with
    | unresolved hconverter =>
      exact .inr (.wrapper htype (fail_of_run (wp_converterFor_missing _ _ _) hconverter rfl))
    | absent _ hraw h =>
      exact h.missing.imp_right fun hdefault =>
        .factory hdefault hraw fun hkind => absurd hkind harray
    | converted hconverter hne h =>
      obtain ⟨text, htext, hparse⟩ := h.parse_of_missing
      obtain ⟨after, hitems⟩ := Value.items_eq_first_cons hne
      rw [htext, ← List.nil_append (_ :: after)] at hitems
      exact .inr (.parser htype hconverter hitems (fun _ hv => (List.not_mem_nil hv).elim)
        (fun _ => rfl) hparse)

/-! ## Records -/

/-- **A decoding that fails for want of a value names a field that demands one**, unless a function
of the program that it calls has raised the error. -/
theorem Decodes.missing {raw : Table String Value}
    (h : Decodes dec d fields raw s (.error (.requiredField w)) s') :
    (∃ f ∈ fields, Demands f w) ∨ RecordRaises dec d fields raw s (.requiredField w) := by
  generalize hx : (Except.error (.requiredField w) : Except Error Value) = x at h
  cases h with
  | constructed h =>
    cases h with
    -- all fields were bound: the constructor raised it
    | all hbound => exact .inr (.constructor hbound hx.symm)
  | failed h =>
    cases hx
    -- a field stopped the decoding: it was demanded, or converting it raised the error
    cases h with
    | @firstFailure before after f _ _ _ _ hsplit hbefore hfails =>
      have hf : f ∈ fields := hsplit ▸ List.mem_append_right _ List.mem_cons_self
      rcases Binds.missing hfails with hdemands | hraises
      · exact .inl ⟨f, hf, hdemands⟩
      · exact .inr (.field hsplit hbefore hraises)

end Decoder

/-! ## Schemas -/

namespace Blueprint

variable {bp : Blueprint} {fields : List Field} {schema : Schema}

/-- The schema is that of a record with the fields, as far as names are required: those of the
visible fields that do not admit null. -/
def RequiresOf (fields : List Field) (schema : Schema) : Prop :=
  ∃ properties, schema = .object properties
    (((fields.filter isVisible).filter (!·.type.nullable)).map (·.wireName))

/-- The schema of a record requires what its visible fields require. -/
theorem requiresOf_objectSchema {schemas : List Schema}
    (hlength : schemas.length = (fields.filter isVisible).length) :
    RequiresOf fields (objectSchema ((fields.filter isVisible).zip schemas)) := by
  refine ⟨_, congrArg (Schema.object _) ?_⟩
  exact filter_zip_fst (fun f : Field => !f.type.nullable) (·.wireName) _ _
    (Nat.le_of_eq hlength.symm)

/-- The order of properties aside, equal schemas require the same names in the same order. -/
theorem RequiresOf.of_same {entry : Schema} (h : RequiresOf fields schema)
    (hsame : entry.same schema = true) : RequiresOf fields entry := by
  obtain ⟨properties, rfl⟩ := h
  cases entry with
  | object ps rs =>
    simp only [Schema.same, Bool.and_eq_true, decide_eq_true_eq] at hsame
    exact ⟨ps, by rw [hsame.2]⟩
  | _ => cases hsame

/-- The body of a record requires what its visible fields require. -/
theorem requiresOf_of_oneLevel {known : Descriptor → Option Schema}
    {names : Descriptor → Option String} (hkind : env.kind d = .object)
    (h : OneLevel env known names d schema) :
    ∃ fields, env.fields d = .ok fields ∧ RequiresOf fields schema := by
  cases h with
  | sum hsum => cases hkind.symm.trans hsum
  | object _ _ hfields _ _ _ hrequired => exact ⟨_, hfields, _, by rw [hrequired]⟩

/-- What a record is called after it has been built, and what the table then holds. -/
def NamedAfter (bp : Blueprint) (d : Descriptor) (schema : Schema) (s : State) : Prop :=
  ∃ name fields entry, schema = .ref name ∧ bp.env.fields d = .ok fields ∧
    s.schemas.get? name = some entry ∧ RequiresOf fields entry

/-- Storing a body leaves an entry that requires what the body does, whatever was there before. -/
theorem wp_store_requires {name : String} (h : RequiresOf fields schema) (s : State) :
    wp (bp.store name schema)
      (fun _ s' => ∃ entry, s'.schemas.get? name = some entry ∧ RequiresOf fields entry)
      (fun _ _ => True) s := by
  have hset : (s.schemas.set name schema).get? name = some schema := by
    rw [Table.get?_set, if_pos rfl]
  refine wp_store ?_ ?_ ?_
  · exact fun _ _ => ⟨schema, hset, h⟩
  · exact fun existing hexisting hsame => ⟨existing, hexisting, h.of_same hsame⟩
  · exact fun _ _ _ => ⟨fun _ _ => trivial, fun _ _ => ⟨schema, hset, h⟩⟩

/-- **The build that names a record leaves its schema in the table**, also where the name had
another entry. -/
theorem wp_build_requires (hkind : bp.env.kind d = .object)
    (hknown : s.registry.schemaOf? bp.env d = none) (hnew : s.refs.get? d.nonNull = none) :
    wp (bp.build d) (bp.NamedAfter d) (fun _ _ => True) s := by
  suffices hsynthesise : wp (bp.synthesise bp.budget d) (bp.NamedAfter d) (fun _ _ => True) s by
    rw [build, wp_bind, wp_get, wp_onError]
    exact wp_mono hsynthesise (fun _ _ h => h) fun _ _ _ => trivial
  cases bp.budget with
  | zero => trivial
  | succ budget =>
    apply wp_synthesise
    -- a record that was neither registered nor named is built in full here
    have hlayer : bp.env.layer (s.registry.schemaOf? bp.env) d =
        .named (bp.env.recordContent d) := by
      rw [Environment.layer, Registry.schemaOf?_nonNull, hkind, hknown]
    rw [hlayer]
    refine ⟨fun name hname => absurd (hnew.symm.trans hname) (Option.some_ne_none name).symm,
      fun _ => ?_⟩
    cases hfields : bp.env.fields d with
    | error e => simp [Environment.recordContent, hfields, Except.map]
    | ok fields =>
      simp only [Environment.recordContent, hfields, Except.map]
      refine wp_mono (wp_mapM_length _ _ _) ?_ fun _ _ h => h
      intro schemas s' hlength
      rw [List.length_map] at hlength
      refine wp_mono (wp_store_requires (requiresOf_objectSchema hlength) s') ?_ fun _ _ h => h
      rintro _ s₂ ⟨entry, hentry, hrequires⟩
      exact ⟨_, fields, entry, rfl, hfields, hentry, hrequires⟩

/-- In a faithful table without collisions, every record that has a name has its schema there. -/
theorem Faithful.requires {known : Descriptor → Option Schema} (h : bp.Faithful known s)
    (hkind : bp.env.kind d = .object) (hclean : bp.Clean s) {name : String}
    (hname : refFor? s d = some name) : bp.NamedAfter d (.ref name) s := by
  obtain ⟨schema, hbody, entry, hentry, hequal⟩ := h.bodies d.nonNull name hname
  obtain ⟨fields, hfields, hrequires⟩ :=
    requiresOf_of_oneLevel hkind (body_nonNull.1 hbody).oneLevel
  refine ⟨name, fields, entry, rfl, hfields, hentry, ?_⟩
  rcases hequal hclean with rfl | hsame
  · exact hrequires
  · exact hrequires.of_same hsame

end Blueprint

/-! ## Both together -/

namespace Decoder

open Blueprint (RequiresOf isVisible refFor? requiresOf_of_oneLevel wp_build_requires)

/-- The schema requires every name that a decoding of the type can fail to find a value for, the
names of private fields aside, unless the error is raised by a parser, a constructor or a factory of
the program that this decoding calls. -/
def Publishes (dec : Decoder) (a : TypeExpr) (t : Descriptor) (schema : Schema) : Prop :=
  ∃ fields properties required, dec.env.fields t.nonNull = .ok fields ∧
    schema = .object properties required ∧
    ∀ raw s w s', (dec.decode a raw).run s = (.error (.requiredField w), s') →
      w ∈ required ∨ (∃ f ∈ fields, isVisible f = false ∧ Demands f w) ∨
        RecordRaises dec t.nonNull fields raw s (.requiredField w)

variable {dec : Decoder} {a : TypeExpr} {t : Descriptor} {fields : List Field} {schema : Schema}

/-- A schema that requires what the fields do publishes every name that a decoding can miss. -/
theorem publishes_of_requiresOf (ht : describe a = .ok t)
    (hobject : dec.env.kind t.nonNull = .object) (hfields : dec.env.fields t = .ok fields)
    (h : RequiresOf fields schema) : Publishes dec a t schema := by
  obtain ⟨properties, rfl⟩ := h
  have hfields' : dec.env.fields t.nonNull = .ok fields := hfields
  refine ⟨fields, properties, _, hfields', rfl, fun raw s w s' hrun => ?_⟩
  rw [decode_eq ht hobject, run_decodeRecord_iff hfields'] at hrun
  rcases hrun.missing with ⟨f, hf, hdemands⟩ | hraises
  · cases hvisible : isVisible f with
    | false => exact .inr (.inl ⟨f, hf, hvisible, hdemands⟩)
    | true =>
      refine .inl (List.mem_map.2 ⟨f, ?_, hdemands.wireName⟩)
      refine List.mem_filter.2 ⟨List.mem_filter.2 ⟨hf, hvisible⟩, ?_⟩
      rw [hdemands.nonNull]
      rfl
  · exact .inr (.inr hraises)

/-- **What decoding demands is published.** The build that turns a record into a named schema leaves
one in the table that requires every name for which a decoding of the record, from any state and of
any raw values, can report a missing value, private fields aside. So does, after any run of builds
from a builder that has named nothing, the entry of every record that has got a name, provided that
names are strict or no collision has been noted; and so does every one-level translation of the
record, wherever it is made. -/
theorem decode_demands_published (dec : Decoder) (bp : Blueprint) (henv : bp.env = dec.env)
    {a : TypeExpr} {t : Descriptor} (ht : describe a = .ok t)
    (hobject : dec.env.kind t.nonNull = .object) :
    (∀ s schema s', s.registry.handles bp.env t = false → refFor? s t = none →
      (bp.build t).run s = (.ok schema, s') →
      ∃ name entry, schema = .ref name ∧ s'.schemas.get? name = some entry ∧
        Publishes dec a t entry) ∧
    (∀ s ds name, s.refs = ∅ →
      (bp.strictNames = true ∨ (bp.buildAll ds s).2.collisions = []) →
      refFor? (bp.buildAll ds s).2 t = some name →
      ∃ entry, (bp.buildAll ds s).2.schemas.get? name = some entry ∧ Publishes dec a t entry) ∧
    ∀ known names schema, OneLevel bp.env known names t schema → Publishes dec a t schema := by
  have hkind : bp.env.kind t = .object := henv ▸ hobject
  have hpublishes : ∀ {fields schema}, bp.env.fields t = .ok fields → RequiresOf fields schema →
      Publishes dec a t schema := fun hfields =>
    publishes_of_requiresOf ht hobject (henv ▸ hfields)
  refine ⟨fun s schema s' hunregistered hnew hrun => ?_,
    fun s ds name hrefs hclean hname => ?_, fun known names schema h => ?_⟩
  · -- built here: the schema is made in this very run
    have hknown : s.registry.schemaOf? bp.env t = none := by
      rw [← Option.not_isSome_iff_eq_none, ← Registry.handles_iff, hunregistered]
      exact Bool.false_ne_true
    obtain ⟨name, fields, entry, hschema, hfields, hentry, hrequires⟩ :=
      post_of_run (wp_build_requires hkind hknown hnew) hrun
    exact ⟨name, entry, hschema, hentry, hpublishes hfields hrequires⟩
  · -- built in an earlier run: the table holds what that build made, since nothing replaced it
    have hstart : bp.Faithful (s.registry.schemaOf? bp.env) s := by
      refine ⟨rfl, fun d n hn => ?_⟩
      rw [hrefs, Table.get?_empty] at hn
      cases hn
    obtain ⟨_, fields, entry, hschema, hfields, hentry, hrequires⟩ :=
      (hstart.buildAll ds).requires hkind hclean hname
    cases hschema
    exact ⟨entry, hentry, hpublishes hfields hrequires⟩
  · -- translated anywhere
    obtain ⟨fields, hfields, hrequires⟩ := requiresOf_of_oneLevel hkind h
    exact hpublishes hfields hrequires

open ApiShape.Sample

namespace Sample

/-- A secret is its token, which is private. -/
def secrets : Decoder where
  env := ⟨[dataclass "Secret" [{ name := "_token", type := text }]]⟩

/-- A builder for what the decoder decodes. -/
def builder (dec : Decoder) : Blueprint where
  env := dec.env

end Sample

open Decoder.Sample

/-- A search without a text is refused for want of `q`, which the schema of searches requires. -/
theorem decode_demands_published_search :
    let built := ((builder searches).build (classType "Search")).run textual
    built.1 = .ok (.ref "Search") ∧
    ((searches.decode (classExpr "Search") (Table.ofList [("text", .text "a")])).run textual).1 =
      .error (.requiredField "q") ∧
    ∃ entry, built.2.schemas.get? "Search" = some entry ∧
      Publishes searches (classExpr "Search") (classType "Search") entry := by
  intro built
  have hbuilt : built.1 = .ok (.ref "Search") := rfl
  have ht : describe (classExpr "Search") = .ok (classType "Search") := rfl
  obtain ⟨hpublished, -⟩ := decode_demands_published searches (builder searches) rfl ht rfl
  obtain ⟨name, entry, hname, hentry, hpublishes⟩ :=
    hpublished textual (.ref "Search") built.2 rfl rfl (Prod.ext hbuilt rfl)
  cases hname
  exact ⟨hbuilt, rfl, entry, hentry, hpublishes⟩

/-- **A private field is demanded although it is not published.** The schema of secrets shows and
requires nothing, and yet nothing is decoded without a token. -/
theorem private_field_demanded :
    let built := ((builder secrets).build (classType "Secret")).run textual
    textual.registry.handles secrets.env (classType "Secret") = false ∧
    built.1 = .ok (.ref "Secret") ∧
    built.2.schemas.get? "Secret" = some (.object [] []) ∧
    ¬∀ properties required,
      built.2.schemas.get? "Secret" = some (.object properties required) →
      ∀ raw w s',
        (secrets.decode (classExpr "Secret") raw).run textual = (.error (.requiredField w), s') →
        w ∈ required := by
  intro built
  have hentry : built.2.schemas.get? "Secret" = some (.object [] []) := rfl
  refine ⟨rfl, rfl, hentry, fun hclaim => ?_⟩
  have hmissing : ((secrets.decode (classExpr "Secret") ∅).run textual).1 =
      .error (.requiredField "_token") := rfl
  have hrequired := hclaim [] [] hentry ∅ "_token" _ (Prod.ext hmissing rfl)
  cases hrequired

end Decoder

end ApiShape
