import ApiShape.Proofs.Schema.References
import ApiShape.Proofs.Schema.Rendering

/-!
# Built schemas name no property twice

Where no name occurs twice, comparing schemas decides whether they are equal (`Schema.same_iff`),
and so whether they are published alike. The properties of a record are put into a table by wire
name, and a table has every key once; so all schemas that a builder compares are of this kind.

* `Translates.proper`, `OneLevel.proper` — what stands for a type, and the body of a record or a
  sum, are proper if known schemas are.
* `Blueprint.Distinct` — the entries of the table are proper, which every build keeps.
* **`Blueprint.buildAll_proper`** — what builds return is proper, and so are the table, also as it
  is published, and both schemas of a comparison.
-/

namespace ApiShape

namespace Schema

theorem properAll_iff {ss : List Schema} : ProperAll ss ↔ ∀ s ∈ ss, s.Proper := by
  induction ss with
  | nil => simp [ProperAll]
  | cons s rest ih => rw [ProperAll, ih, List.forall_mem_cons]

end Schema

/-! ## One level of a type -/

section

variable {env : Environment} {known : Descriptor → Option Schema}
  {names : Descriptor → Option String} {d : Descriptor} {schema : Schema}

/-- What stands for a type is proper, if known schemas are. -/
theorem Translates.proper (hknown : ∀ d s, known d = some s → s.Proper)
    (h : Translates env known names d schema) : schema.Proper := by
  induction h with
  | stream => exact trivial
  | wrapper _ _ _ ih | array _ _ _ _ ih | map _ _ _ _ ih => exact ih
  | inline _ _ hschema => exact hknown _ _ hschema
  | named => exact trivial

/-- **The body of a record or a sum is proper**, if known schemas are. Fields may share a wire name;
the property then has the schema of the last of them. -/
theorem OneLevel.proper (hknown : ∀ d s, known d = some s → s.Proper)
    (h : OneLevel env known names d schema) : schema.Proper := by
  cases h with
  | sum _ _ _ hschemas =>
    refine Schema.properAll_iff.2 fun s hs => ?_
    obtain ⟨_, htranslates⟩ := exists_mem_of_forall₂ hschemas hs
    exact htranslates.proper hknown
  | object _ _ _ hschemas hkeys hproperties _ =>
    refine ⟨hkeys, Schema.properIn_iff.2 fun p hp => ?_⟩
    have hlast := (hproperties p.1).symm.trans (Table.lookup_of_mem hkeys hp)
    have hs := (List.of_mem_zip (Table.mem_of_lastOf? hlast)).2
    obtain ⟨_, htranslates⟩ := exists_mem_of_forall₂ hschemas hs
    exact htranslates.proper hknown

end

/-- If the schemas of its converters are proper, a registry knows proper schemas only. -/
theorem Registry.proper_schemaOf? {r : Registry} {env : Environment}
    (hconverters : ∀ d i, r.entries.get? d = some i → i.converter.schema.Proper)
    (d : Descriptor) (schema : Schema) (h : r.schemaOf? env d = some schema) : schema.Proper := by
  rcases schemaOf?_cases h with ⟨i, hentry, rfl⟩ | ⟨names, rfl⟩
  · exact hconverters _ _ hentry
  · trivial

namespace Blueprint

open ApiShape.Action

variable {bp : Blueprint} {known : Descriptor → Option Schema} {s : State} {d : Descriptor}

/-! ## The invariant of a run -/

/-- The registry knows these schemas, and the entries of the table are proper. -/
structure Distinct (bp : Blueprint) (known : Descriptor → Option Schema) (s : State) : Prop where
  registry : s.registry.schemaOf? bp.env = known
  entries : ∀ n e, s.schemas.get? n = some e → e.Proper

/-- **A build keeps the entries proper, and what it returns is proper.** -/
theorem Distinct.build (hknown : ∀ d s, known d = some s → s.Proper) (h : bp.Distinct known s)
    (d : Descriptor) :
    bp.Distinct known ((bp.build d).run s).2 ∧
      ∀ schema, ((bp.build d).run s).1 = .ok schema → schema.Proper := by
  have hbuild : wp (bp.build d) (bp.Grown known (fun _ => True) s d) (bp.Restored s) s :=
    wp_build (fun _ _ _ _ => trivial) trivial h.registry
  cases hrun : (bp.build d).run s with
  | mk result s' =>
    cases result with
    | error e =>
      have hrestored := fail_of_run hbuild hrun
      refine ⟨⟨hrestored.registry.trans h.registry, fun n t ht => ?_⟩, nofun⟩
      rw [hrestored.schemas] at ht
      exact h.entries n t ht
    | ok schema =>
      obtain ⟨hgrows, hschema⟩ := post_of_run hbuild hrun
      refine ⟨⟨hgrows.registry.trans h.registry, fun n t ht => ?_⟩, ?_⟩
      · -- an entry was there before, or it is the body of a type named by this build
        rcases hgrows.origin n t ht with hold | ⟨e, -, -, hbody⟩
        · exact h.entries n t hold
        · exact hbody.oneLevel.proper hknown
      · rintro _ ⟨⟩
        exact hschema.proper hknown

theorem Distinct.buildAll (hknown : ∀ d s, known d = some s → s.Proper) (ds : List Descriptor) :
    ∀ {s : State}, bp.Distinct known s → bp.Distinct known (bp.buildAll ds s).2 ∧
      ∀ schema, .ok schema ∈ (bp.buildAll ds s).1 → schema.Proper := by
  induction ds with
  | nil => exact fun h => ⟨h, fun _ hmem => nomatch hmem⟩
  | cons d ds ih =>
    intro s h
    obtain ⟨hbuilt, hresult⟩ := h.build hknown d
    obtain ⟨hdistinct, hresults⟩ := ih hbuilt
    refine ⟨hdistinct, fun schema hmem => ?_⟩
    rcases List.mem_cons.1 hmem with hfirst | hlater
    · exact hresult schema hfirst.symm
    · exact hresults schema hlater

/-- A table of proper schemas is published with every name once. -/
theorem components_proper (h : ∀ n e, s.schemas.get? n = some e → e.Proper) (refBase : String) :
    (components s refBase).Proper := by
  refine ⟨?_, Document.properIn_iff.2 fun m hm => ?_⟩
  · rw [List.map_map]
    exact s.schemas.nodup
  · obtain ⟨⟨n, e⟩, hentry, rfl⟩ := List.mem_map.1 hm
    exact Schema.render_proper refBase (h n e (Table.lookup_of_mem s.schemas.nodup hentry))

/-- **What builds make names nothing twice.** Take any run of builds from a state whose table and
whose converters have proper schemas, as a new builder's are. Whichever builds fail, the schemas
that the others return and the entries of the table are proper, and the table is published with
every name once. A body that is then stored under a name that is taken collides with the entry
exactly if the two are not equal. -/
theorem buildAll_proper (bp : Blueprint) (s : State)
    (hconverters : ∀ d i, s.registry.entries.get? d = some i → i.converter.schema.Proper)
    (hentries : ∀ n e, s.schemas.get? n = some e → e.Proper) (ds : List Descriptor) :
    let t := (bp.buildAll ds s).2
    (∀ schema, .ok schema ∈ (bp.buildAll ds s).1 → schema.Proper) ∧
    (∀ n e, t.schemas.get? n = some e → e.Proper) ∧
    (∀ refBase, (components t refBase).Proper) ∧
    ∀ d n e body, t.schemas.get? n = some e →
      OneLevel bp.env (s.registry.schemaOf? bp.env) t.refs.get? d body →
      (((bp.store n body).run t).2.collisions = t.collisions ↔ e.Equals body) := by
  intro t
  have hknown : ∀ d schema, s.registry.schemaOf? bp.env d = some schema → schema.Proper :=
    Registry.proper_schemaOf? hconverters
  obtain ⟨hdistinct, hresults⟩ := Distinct.buildAll hknown ds ⟨rfl, hentries⟩
  refine ⟨hresults, hdistinct.entries, components_proper hdistinct.entries,
    fun d n e body hentry hbody => ?_⟩
  rw [Schema.collisions_store bp hentry,
    ← Schema.same_iff (hdistinct.entries n e hentry) (hbody.proper hknown)]
  cases e.same body <;> simp

end Blueprint

end ApiShape
