import ApiShape.Proofs.Sample
import ApiShape.Proofs.Schema.Growth

/-!
# The table of named schemas is faithful

After any run of builds, the table holds under every name that has been handed out the one-level
translation of the type that got it.

* **`wp_build`** — a build grows the state or, if it fails, takes everything back but the collisions
  that it noted.
* **`Faithful`** — every name has a body. It holds between builds, not within them.
* **`buildAll_oneLevel`** — the table after a run, in terms of `OneLevel`.

A type that has a registered converter is never named. It stands as the schema of its converter
wherever it occurs, a record or a sum no less than a leaf.
-/

namespace ApiShape

namespace Blueprint

open ApiShape.Action

variable {bp : Blueprint} {known : Descriptor → Option Schema} {region : Descriptor → Prop}
  {s s' : State} {d : Descriptor}

/-! ## Builds -/

/-- A build ends as synthesis does, but for the state after a failure. -/
theorem wp_build_of_synthesise {post : Schema → State → Prop} {fail : Error → Prop}
    (h : wp (bp.synthesise bp.budget d) post (fun e _ => fail e) s) :
    wp (bp.build d) post (fun e _ => fail e) s := by
  rw [build, wp_bind, wp_get, wp_onError]
  exact wp_mono h (fun _ _ h => h) fun _ _ h => h

/-- What a failed build leaves behind. -/
structure Restored (bp : Blueprint) (s : State) (_ : Error) (s' : State) : Prop where
  registry : s'.registry.schemaOf? bp.env = s.registry.schemaOf? bp.env
  collisions : s.collisions <+: s'.collisions
  refs : s'.refs = s.refs
  schemas : s'.schemas = s.schemas

/-- **A build grows the state or restores it.** -/
theorem wp_build (hclosed : ∀ d e, region d → Refers bp.env known d e → region e)
    (hregion : region d.nonNull) (hknown : s.registry.schemaOf? bp.env = known) :
    wp (bp.build d) (bp.Grown known region s d) (bp.Restored s) s := by
  rw [build, wp_bind, wp_get, wp_onError]
  refine wp_mono (wp_grows hclosed bp.budget d s hregion hknown) (fun _ _ h => h) ?_
  rintro e s' ⟨hregistry, hcollisions⟩
  rw [wp_modify]
  exact ⟨hregistry, hcollisions, rfl, rfl⟩

/-- Builds the schemas of the types one after the other; a build that fails does not end the run. -/
def buildAll (bp : Blueprint) : List Descriptor → State → List (Except Error Schema) × State
  | [], s => ([], s)
  | d :: ds, s =>
    let built := (bp.build d).run s
    let rest := bp.buildAll ds built.2
    (built.1 :: rest.1, rest.2)

/-! ## The invariant of a run -/

/-- Every name that has been handed out has a body in the table. -/
structure Faithful (bp : Blueprint) (known : Descriptor → Option Schema) (s : State) : Prop where
  registry : s.registry.schemaOf? bp.env = known
  bodies : ∀ d n, s.refs.get? d = some n →
    ∃ t, Body bp.env known s.refs.get? d t ∧ bp.Holds s n t

theorem Faithful.grow (h : bp.Faithful known s) (hgrows : bp.Grows known region s s') :
    bp.Faithful known s' where
  registry := hgrows.registry.trans h.registry
  bodies d n hname := by
    cases hold : s.refs.get? d with
    | none =>
      obtain ⟨-, -, -, hbody⟩ := hgrows.fresh d n hold hname
      exact hbody
    | some m =>
      obtain rfl := hgrows.name_eq hold hname
      obtain ⟨t, hbody, hholds⟩ := h.bodies d m hold
      exact ⟨t, hbody.mono fun d => hgrows.names d.nonNull, hgrows.holds hholds⟩

theorem Faithful.restore {e : Error} (h : bp.Faithful known s) (hrestored : bp.Restored s e s') :
    bp.Faithful known s' where
  registry := hrestored.registry.trans h.registry
  bodies d n hname := by
    -- only collisions are left of a failed build, and they can but end cleanness
    rw [hrestored.refs] at hname ⊢
    obtain ⟨t, hbody, hholds⟩ := h.bodies d n hname
    refine ⟨t, hbody, hholds.mono hrestored.collisions ?_ ?_⟩
    · rw [hrestored.schemas]
      exact id
    · intro _ e he
      rw [hrestored.schemas]
      exact he

/-- Whether it succeeds or not, a build keeps the table faithful. -/
theorem Faithful.build (h : bp.Faithful known s) (d : Descriptor) :
    bp.Faithful known ((bp.build d).run s).2 := by
  have hwp : wp (bp.build d) (bp.Grown known (fun _ => True) s d) (bp.Restored s) s :=
    wp_build (fun _ _ _ _ => trivial) trivial h.registry
  refine snd_of_wp (p := bp.Faithful known) (wp_mono hwp ?_ ?_)
  · intro _ s' hgrown
    exact h.grow hgrown.1
  · intro _ s' hrestored
    exact h.restore hrestored

theorem Faithful.buildAll (ds : List Descriptor) :
    ∀ {s : State}, bp.Faithful known s → bp.Faithful known (bp.buildAll ds s).2 := by
  induction ds with
  | nil => exact fun h => h
  | cons d ds ih => exact fun h => ih (h.build d)

/-- **After every run of builds from a builder that has named nothing, the entry of every name is
the one-level translation of the type that has the name**, up to the order of properties, provided
that names are strict or no collision has been noted. -/
theorem buildAll_oneLevel (bp : Blueprint) (ds : List Descriptor) (s : State) (hrefs : s.refs = ∅)
    (hclean : bp.strictNames = true ∨ (bp.buildAll ds s).2.collisions = []) (d : Descriptor)
    (name : String) (hname : refFor? (bp.buildAll ds s).2 d = some name) :
    ∃ entry schema, (bp.buildAll ds s).2.schemas.get? name = some entry ∧
      OneLevel bp.env (s.registry.schemaOf? bp.env) (refFor? (bp.buildAll ds s).2) d schema ∧
      (entry = schema ∨ entry.same schema = true) := by
  -- without names there is nothing to hold
  have hstart : bp.Faithful (s.registry.schemaOf? bp.env) s := by
    refine ⟨rfl, fun d n hn => ?_⟩
    rw [hrefs, Table.get?_empty] at hn
    cases hn
  have hfaithful := hstart.buildAll ds
  obtain ⟨schema, hbody, entry, hentry, hequal⟩ := hfaithful.bodies d.nonNull name hname
  -- asking for the name of a type strips nullability first, as bodies do
  have hnames : ∀ (e : Descriptor) n, (bp.buildAll ds s).2.refs.get? e.nonNull = some n →
      refFor? (bp.buildAll ds s).2 e.nonNull = some n := fun _ _ h => h
  have hbody' := (body_nonNull.1 hbody).mono hnames
  exact ⟨entry, schema, hentry, hbody'.oneLevel, hequal hclean⟩

/-! ## Routes

A recursive type to see the theorem at: a route starts at a point and may go on. -/

open ApiShape.Sample

namespace Sample

/-- Points and routes. -/
def routes : Blueprint where
  env := ⟨[
    dataclass "Point" [{ name := "label", type := text }],
    dataclass "Route" [{ name := "start", type := classExpr "Point" },
      { name := "rest", type := .union [classExpr "Route", .null] }]]⟩

end Sample

open Blueprint.Sample

/-- After a run with a build that fails and one that is repeated, the entry of routes is their
translation. -/
theorem buildAll_oneLevel_route :
    let s := (routes.buildAll [classType "Route", .any, classType "Route"]
      textual).2
    refFor? s (classType "Route") = some "Route" ∧
    ∃ entry schema, s.schemas.get? "Route" = some entry ∧
      OneLevel routes.env (textual.registry.schemaOf? routes.env) (refFor? s)
        (classType "Route") schema ∧ (entry = schema ∨ entry.same schema = true) :=
  have hname : refFor? (routes.buildAll [classType "Route", .any, classType "Route"]
      textual).2 (classType "Route") = some "Route" := by decide
  ⟨hname, buildAll_oneLevel routes _ _ rfl (.inr rfl) _ _ hname⟩

/-- **A record with a registered converter is not named where it is nested.** With points
registered, the entry of routes holds the schema of their converter; there is no translation that
refers to points by a name. -/
theorem registered_record_not_named :
    let s := (routes.buildAll [classType "Route"]
      (withTexts [.ofBuiltin .str, classType "Point"])).2
    let known := s.registry.schemaOf? routes.env
    s.collisions = [] ∧ refFor? s (classType "Route") = some "Route" ∧
    s.schemas.get? "Route" =
      some (.object [("start", .string), ("rest", .ref "Route")] ["start"]) ∧
    ¬∃ schema, OneLevel routes.env
      (fun d => if routes.env.kind d = .object ∨ routes.env.kind d = .sum then none else known d)
      (refFor? s) (classType "Route") schema := by
  intro s known
  refine ⟨rfl, by decide, rfl, ?_⟩
  rintro ⟨schema, h⟩
  have hunnamed : refFor? s (classType "Point") = none := by decide
  have hstart : ∃ fields, routes.env.fields (classType "Route") = .ok fields ∧
      ∃ f ∈ fields.filter isVisible, f.type = classType "Point" :=
    ⟨_, rfl, _, .head _, rfl⟩
  cases h with
  | sum hkind => exact absurd hkind (by decide)
  | object _ _ hfields hschemas =>
    obtain ⟨fields, hfields', f, hf, htype⟩ := hstart
    rw [hfields, Except.ok.injEq] at hfields'
    obtain ⟨found, hfound⟩ := exists_of_forall₂ hschemas (hfields' ▸ hf)
    -- a point would have to stand for a reference, but it has no name
    rw [htype, translates_iff, (LayerOf.object (by decide) (if_pos (by decide))).layer_eq] at hfound
    obtain ⟨name, hname, -⟩ := hfound
    have hunnamed' : refFor? s (classType "Point").nonNull = none := hunnamed
    rw [hunnamed'] at hname
    cases hname

end Blueprint

end ApiShape
