import ApiShape.Proofs.Schema.Order

/-!
# References name entries of the table

A reference is handed out before the body of its type is there, a build that fails takes entries
back, and a collision replaces them. Still no schema that a caller has got, and no entry of the
table, ever refers to a name that the table lacks.

* **`Document.references`** — the references of a published document, told apart from its other
  texts by the member that they stand under; `references_render` ties them to those of the schema.
* **`Translates.exists_name`** — what synthesis makes refers only to names that have been handed
  out.
* **`Closed`** — between builds, every entry refers to entries.
* **`buildAll_no_dangling`** — all schemas of a run, then and after any later builds.
-/

namespace ApiShape

/-! ## References of documents -/

namespace Document

/-- The names of the members of an object. -/
def keys : Document → List String
  | object members => members.map (·.1)
  | _ => []

/-- The text of a member that is a reference. -/
def referenceOf? : String → Document → Option String
  | "$ref", text s => some s
  | _, _ => none

mutual

/-- The texts of all members `$ref` in the document, at any depth. -/
def references : Document → List String
  | text _ | flag _ => []
  | list items => referencesOfItems items
  | object members => referencesOfMembers members

def referencesOfItems : List Document → List String
  | [] => []
  | d :: rest => references d ++ referencesOfItems rest

def referencesOfMembers : List (String × Document) → List String
  | [] => []
  | (name, d) :: rest => (referenceOf? name d).toList ++ references d ++ referencesOfMembers rest

end

theorem referencesOfItems_texts (items : List String) :
    referencesOfItems (items.map text) = [] := by
  induction items with
  | nil => rfl
  | cons s rest ih => simpa [referencesOfItems, references] using ih

end Document

namespace Schema

open Document (referenceOf? referencesOfItems referencesOfMembers)

/-- Members behind others add their references behind those of the others. -/
theorem referencesOfMembers_append (ms ns : List (String × Document)) :
    referencesOfMembers (ms ++ ns) = referencesOfMembers ms ++ referencesOfMembers ns := by
  induction ms with
  | nil => rfl
  | cons m rest ih => simp [referencesOfMembers, ih]

/-- A published schema is an object, so it is no reference whatever name it stands under. -/
theorem referenceOf?_render (name refBase : String) (s : Schema) :
    referenceOf? name (s.render refBase) = none := by
  cases s <;> simp [render, referenceOf?]

/-- A list of texts under some name, if there is one. -/
theorem referencesOfMembers_texts (name : String) (items : Option (List String)) :
    referencesOfMembers (items.toList.map fun items => (name, .list (items.map .text))) = [] := by
  cases items with
  | none => rfl
  | some items =>
    simp [referencesOfMembers, referenceOf?, Document.references, Document.referencesOfItems_texts]

mutual

/-- **The references of a published schema are those of the schema, behind the base.** -/
theorem references_render (refBase : String) (s : Schema) :
    (s.render refBase).references = s.references.map (refBase ++ ·) := by
  cases s with
  | primitive type format enum =>
    have hrender : (primitive type format enum).render refBase = .object
        (("type", .text type) :: format.toList.map (fun s => ("format", .text s)) ++
          enum.toList.map (fun items => ("enum", .list (items.map .text)))) := by
      cases format <;> cases enum <;> rfl
    rw [hrender, Document.references, referencesOfMembers_append, referencesOfMembers_texts]
    cases format <;> simp [referencesOfMembers, referenceOf?, Document.references, references]
  | object properties required =>
    have hproperties := referencesOfMembers_renderProperties refBase properties
    -- the required names are left out where there are none
    have hrender : (object properties required).render refBase = .object
        ([("type", .text "object"),
            ("properties", .object (renderProperties refBase properties))] ++
          (if required.isEmpty then none else some required).toList.map
            (fun items => ("required", .list (items.map .text)))) := by
      cases required <;> rfl
    rw [hrender, Document.references, referencesOfMembers_append, referencesOfMembers_texts]
    simp [referencesOfMembers, referenceOf?, Document.references, references, hproperties]
  | array items =>
    have hitems := references_render refBase items
    simp [render, Document.references, referencesOfMembers, references, referenceOf?, hitems]
  | map values =>
    have hvalues := references_render refBase values
    simp [render, Document.references, referencesOfMembers, references, referenceOf?, hvalues]
  | oneOf variants =>
    have hvariants := referencesOfItems_renderAll refBase variants
    simp [render, Document.references, referencesOfMembers, references, referenceOf?, hvariants]
  | ref name => rfl

/-- Published variants have the references of the variants. -/
theorem referencesOfItems_renderAll (refBase : String) (ss : List Schema) :
    referencesOfItems (renderAll refBase ss) = (referencesOfAll ss).map (refBase ++ ·) := by
  cases ss with
  | nil => rfl
  | cons s rest =>
    rw [renderAll, referencesOfItems, referencesOfAll, List.map_append, references_render,
      referencesOfItems_renderAll]

/-- Published properties have the references of the properties. -/
theorem referencesOfMembers_renderProperties (refBase : String) (ps : List (String × Schema)) :
    referencesOfMembers (renderProperties refBase ps) =
      (referencesOfProperties ps).map (refBase ++ ·) := by
  cases ps with
  | nil => rfl
  | cons p rest =>
    obtain ⟨name, s⟩ := p
    rw [renderProperties, referencesOfMembers, referencesOfProperties, List.map_append,
      referenceOf?_render, references_render, referencesOfMembers_renderProperties]
    rfl

end

/-- Properties are published one by one. -/
theorem renderProperties_eq_map (refBase : String) (properties : List (String × Schema)) :
    renderProperties refBase properties = properties.map fun p => (p.1, p.2.render refBase) := by
  induction properties with
  | nil => rfl
  | cons p rest ih => rw [List.map_cons, ← ih, renderProperties]

/-- Variants refer to what one of them refers to. -/
theorem mem_referencesOfAll {name : String} {ss : List Schema} :
    name ∈ referencesOfAll ss ↔ ∃ s ∈ ss, name ∈ s.references := by
  induction ss with
  | nil => simp [referencesOfAll]
  | cons s rest ih => simp [referencesOfAll, ih]

/-- Properties refer to what one of them refers to. -/
theorem mem_referencesOfProperties {name : String} {ps : List (String × Schema)} :
    name ∈ referencesOfProperties ps ↔ ∃ p ∈ ps, name ∈ p.2.references := by
  induction ps with
  | nil => simp [referencesOfProperties]
  | cons p rest ih => simp [referencesOfProperties, ih]

end Schema

/-! ## References to names that have been handed out -/

section

variable {env : Environment} {known : Descriptor → Option Schema}
  {names : Descriptor → Option String} {d : Descriptor} {schema : Schema} {name : String}

/-- **What stands for a type refers only to names of types**, if known schemas refer to none. -/
theorem Translates.exists_name (hplain : ∀ d s, known d = some s → s.references = [])
    (h : Translates env known names d schema) (hname : name ∈ schema.references) :
    ∃ e, names e = some name := by
  induction h with
  | stream => cases hname
  | wrapper _ _ _ ih | array _ _ _ _ ih | map _ _ _ _ ih => exact ih hname
  | inline _ _ hknown =>
    rw [hplain _ _ hknown] at hname
    cases hname
  | named _ _ hnamed =>
    obtain rfl := List.mem_singleton.1 hname
    exact ⟨_, hnamed⟩

theorem exists_mem_of_forall₂ {α β : Type} {R : α → β → Prop} {as : List α} {bs : List β} {b : β}
    (h : List.Forall₂ R as bs) (hb : b ∈ bs) : ∃ a, R a b := exists_of_forall₂ h.flip hb

/-- **A body refers only to names of types**, if known schemas refer to none. -/
theorem OneLevel.exists_name (hplain : ∀ d s, known d = some s → s.references = [])
    (h : OneLevel env known names d schema) (hname : name ∈ schema.references) :
    ∃ e, names e = some name := by
  cases h with
  | sum _ _ _ hschemas =>
    obtain ⟨s, hs, hname⟩ := Schema.mem_referencesOfAll.1 hname
    obtain ⟨_, htranslates⟩ := exists_mem_of_forall₂ hschemas hs
    exact htranslates.exists_name hplain hname
  | object _ _ _ hschemas hkeys hproperties _ =>
    obtain ⟨⟨wireName, s⟩, hp, hname⟩ := Schema.mem_referencesOfProperties.1 hname
    -- the property has the schema of the last field of its wire name
    have hlast := (hproperties wireName).symm.trans (Table.lookup_of_mem hkeys hp)
    have hs := (List.of_mem_zip (Table.mem_of_lastOf? hlast)).2
    obtain ⟨_, htranslates⟩ := exists_mem_of_forall₂ hschemas hs
    exact htranslates.exists_name hplain hname

end

/-- The schemas that a registry knows are those of its converters and of enumerations. -/
theorem Registry.schemaOf?_cases {r : Registry} {env : Environment} {d : Descriptor}
    {schema : Schema} (h : r.schemaOf? env d = some schema) :
    (∃ i, r.entries.get? d.nonNull = some i ∧ i.converter.schema = schema) ∨
      ∃ names, schema = .primitive "string" none (some names) := by
  obtain ⟨r', i, hresolve, rfl⟩ := exists_resolve h
  rw [resolve] at hresolve
  cases hentry : r.entries.get? d.nonNull with
  | some found =>
    simp only [hentry, Except.ok.injEq, Prod.mk.injEq] at hresolve
    exact .inl ⟨found, rfl, by rw [hresolve.2]⟩
  -- not registered: only an enumeration can be found, by its text form
  | none =>
    simp only [hentry] at hresolve
    cases henum : env.enumeration? d.nonNull.origin with
    | none => simp [henum] at hresolve
    | some found =>
      simp only [henum, install, Except.ok.injEq, Prod.mk.injEq] at hresolve
      rw [← hresolve.2]
      exact .inr ⟨_, rfl⟩

/-- Without converters that have a schema with references, a registry knows no such schema: those of
enumerations have none. -/
theorem Registry.references_schemaOf? {r : Registry} {env : Environment}
    (hplain : ∀ d i, r.entries.get? d = some i → i.converter.schema.references = [])
    (d : Descriptor) (schema : Schema) (h : r.schemaOf? env d = some schema) :
    schema.references = [] := by
  rcases schemaOf?_cases h with ⟨i, hentry, rfl⟩ | ⟨names, rfl⟩
  · exact hplain _ _ hentry
  · rfl

namespace Blueprint

open ApiShape.Action

variable {bp : Blueprint} {known : Descriptor → Option Schema} {s s' : State} {d : Descriptor}
  {name : String} {schema : Schema}

/-! ## The invariant of a run -/

/-- Every name that has been handed out has an entry, and entries refer only to names of entries. -/
structure Closed (bp : Blueprint) (known : Descriptor → Option Schema) (s : State) : Prop
    extends bp.Faithful known s where
  entries : ∀ n e, s.schemas.get? n = some e → ∀ m ∈ e.references, (s.schemas.get? m).isSome

/-- A name that has been handed out has an entry. -/
theorem Faithful.isSome (h : bp.Faithful known s) (hname : s.refs.get? d = some name) :
    (s.schemas.get? name).isSome := by
  obtain ⟨t, -, entry, hentry, -⟩ := h.bodies d name hname
  rw [hentry]
  rfl

/-- A build takes no entry out of the table. -/
theorem Faithful.keys_build (h : bp.Faithful known s) (d : Descriptor)
    (hkey : (s.schemas.get? name).isSome) :
    (((bp.build d).run s).2.schemas.get? name).isSome := by
  have hbuild : wp (bp.build d) (bp.Grown known (fun _ => True) s d) (bp.Restored s) s :=
    wp_build (fun _ _ _ _ => trivial) trivial h.registry
  refine snd_of_wp (p := fun s' => (s'.schemas.get? name).isSome) (wp_mono hbuild ?_ ?_)
  · exact fun _ _ hgrown => hgrown.1.keys name hkey
  · intro _ s' hrestored
    rw [hrestored.schemas]
    exact hkey

/-- **A build keeps the table closed, and what it returns refers to entries of the table.** -/
theorem Closed.build (hplain : ∀ d s, known d = some s → s.references = [])
    (h : bp.Closed known s) (d : Descriptor) :
    bp.Closed known ((bp.build d).run s).2 ∧
      ∀ schema, ((bp.build d).run s).1 = .ok schema →
        ∀ n ∈ schema.references, (((bp.build d).run s).2.schemas.get? n).isSome := by
  have hbuild : wp (bp.build d) (bp.Grown known (fun _ => True) s d) (bp.Restored s) s :=
    wp_build (fun _ _ _ _ => trivial) trivial h.registry
  have hfaithful := h.toFaithful.build d
  have hstays : ∀ n, (s.schemas.get? n).isSome →
      (((bp.build d).run s).2.schemas.get? n).isSome :=
    fun n hn => h.toFaithful.keys_build d hn
  cases hrun : (bp.build d).run s with
  | mk result s' =>
    rw [hrun] at hfaithful hstays
    cases result with
    -- a failed build takes back its names, and the table with them
    | error e =>
      have hrestored := fail_of_run hbuild hrun
      refine ⟨⟨hfaithful, fun n t ht => ?_⟩, fun _ hok => nomatch hok⟩
      rw [hrestored.schemas] at ht
      exact fun m hm => hstays m (h.entries n t ht m hm)
    | ok schema =>
      obtain ⟨hgrows, hschema⟩ := post_of_run hbuild hrun
      refine ⟨⟨hfaithful, fun n t ht m hm => ?_⟩, fun result hok n hn => ?_⟩
      · -- entries of this build refer to names, and so do entries that stood before
        rcases hgrows.origin n t ht with hold | ⟨e, -, -, hbody⟩
        · exact hstays m (h.entries n t hold m hm)
        · obtain ⟨f, hf⟩ := hbody.oneLevel.exists_name hplain hm
          exact hfaithful.isSome hf
      · cases hok
        obtain ⟨e, he⟩ := hschema.exists_name hplain hn
        exact hfaithful.isSome he

/-- A run keeps the table closed and takes no entry out of it. What its builds return refers to
entries of the table at its end. -/
theorem Closed.buildAll (hplain : ∀ d s, known d = some s → s.references = [])
    (ds : List Descriptor) : ∀ {s : State}, bp.Closed known s →
      bp.Closed known (bp.buildAll ds s).2 ∧
      (∀ n, (s.schemas.get? n).isSome → ((bp.buildAll ds s).2.schemas.get? n).isSome) ∧
      ∀ schema, .ok schema ∈ (bp.buildAll ds s).1 →
        ∀ n ∈ schema.references, ((bp.buildAll ds s).2.schemas.get? n).isSome := by
  induction ds with
  | nil => exact fun h => ⟨h, fun _ h => h, fun _ hmem => nomatch hmem⟩
  | cons d ds ih =>
    intro s h
    obtain ⟨hclosed, hresult⟩ := h.build hplain d
    obtain ⟨hclosed', hstays, hresults⟩ := ih hclosed
    refine ⟨hclosed', fun n hn => hstays n (h.toFaithful.keys_build d hn), fun schema hmem => ?_⟩
    rcases List.mem_cons.1 hmem with hfirst | hlater
    · exact fun n hn => hstays n (hresult schema hfirst.symm n hn)
    · exact hresults schema hlater

/-! ## The published table -/

/-- The table is published under its own names. -/
theorem keys_components (s : State) (refBase : String) :
    (components s refBase).keys = s.schemas.keys := by
  simp [components, Document.keys, Table.keys]

/-- The references of the published table are those of its entries, behind the base. -/
theorem references_components (s : State) (refBase : String) :
    (components s refBase).references =
      (Schema.referencesOfProperties s.schemas.entries).map (refBase ++ ·) := by
  have hmembers : components s refBase =
      .object (Schema.renderProperties refBase s.schemas.entries) := by
    rw [Schema.renderProperties_eq_map]
    rfl
  rw [hmembers, Document.references, Schema.referencesOfMembers_renderProperties]

/-- **No reference dangles.** In a run of builds on a new builder whose registered converters have
schemas without references, as primitive schemas are, take any schema that a build has returned and
any entry of the table. All names that they refer to, at any depth, are names of the table, then and
after any later builds, whichever of the builds fail. So every reference that they or the table are
published with is the base followed by a key of the published table. -/
theorem buildAll_no_dangling (bp : Blueprint) (s : State) (hnew : IsNew s)
    (hplain : ∀ d i, s.registry.entries.get? d = some i → i.converter.schema.references = [])
    (ds later : List Descriptor) (schema : Schema)
    (hschema : .ok schema ∈ (bp.buildAll ds s).1 ∨
      ∃ name, (bp.buildAll ds s).2.schemas.get? name = some schema) :
    let t := (bp.buildAll later (bp.buildAll ds s).2).2
    (∀ name ∈ schema.references, (t.schemas.get? name).isSome) ∧
    ∀ refBase : String,
      (∀ text ∈ (schema.render refBase).references,
        ∃ name ∈ (components t refBase).keys, text = refBase ++ name) ∧
      ∀ text ∈ (components t refBase).references,
        ∃ name ∈ (components t refBase).keys, text = refBase ++ name := by
  intro t
  have hknown : ∀ d t, s.registry.schemaOf? bp.env d = some t → t.references = [] :=
    Registry.references_schemaOf? hplain
  have hstart : bp.Closed (s.registry.schemaOf? bp.env) s := by
    -- nothing is named yet, so there is nothing to dangle
    refine ⟨⟨rfl, fun d n hn => ?_⟩, fun n e he => ?_⟩
    · rw [hnew.refs, Table.get?_empty] at hn
      cases hn
    · rw [hnew.schemas, Table.get?_empty] at he
      cases he
  obtain ⟨hclosed, -, hresults⟩ := hstart.buildAll hknown ds
  obtain ⟨hclosed', hstays, -⟩ := hclosed.buildAll hknown later
  -- names stay in the table, so those of the earlier builds are there after the later ones
  have hnames : ∀ name ∈ schema.references, (t.schemas.get? name).isSome := by
    intro name hname
    rcases hschema with hresult | ⟨n, hentry⟩
    · exact hstays name (hresults schema hresult name hname)
    · exact hstays name (hclosed.entries n schema hentry name hname)
  have hkeys : ∀ refBase name, (t.schemas.get? name).isSome →
      name ∈ (components t refBase).keys := by
    intro refBase name hname
    rw [keys_components]
    exact (Table.contains_iff t.schemas name).1 hname
  refine ⟨hnames, fun refBase => ⟨fun text htext => ?_, fun text htext => ?_⟩⟩
  · -- what the schema is published with comes from the references that it has
    rw [Schema.references_render] at htext
    obtain ⟨name, hname, rfl⟩ := List.mem_map.1 htext
    exact ⟨name, hkeys refBase name (hnames name hname), rfl⟩
  · -- what the table is published with comes from the references of its entries
    rw [references_components] at htext
    obtain ⟨name, hname, rfl⟩ := List.mem_map.1 htext
    obtain ⟨⟨n, e⟩, hentry, hname⟩ := Schema.mem_referencesOfProperties.1 hname
    have hget := Table.lookup_of_mem t.schemas.nodup hentry
    exact ⟨name, hkeys refBase name (hclosed'.entries n e hget name hname), rfl⟩

open ApiShape.Sample Blueprint.Sample

/-- Routes are built, then comes a build that fails, then that of points: the reference to routes,
in the schema that the first build returned and in the table, still names an entry. -/
theorem buildAll_no_dangling_route :
    let new := textual
    let built := routes.buildAll [classType "Route"] new
    let t := (routes.buildAll [.any, classType "Point"] built.2).2
    IsNew new ∧
    (∀ d i, new.registry.entries.get? d = some i → i.converter.schema.references = []) ∧
    .ok (.ref "Route") ∈ built.1 ∧
    (t.schemas.get? "Route").isSome ∧
    ∃ name ∈ (components t "#/").keys, "#/Route" = "#/" ++ name := by
  intro new built t
  have hnew : IsNew new := ⟨rfl, rfl⟩
  have hplain : ∀ d i, new.registry.entries.get? d = some i →
      i.converter.schema.references = [] := by
    intro d i hentry
    have hentries : new.registry.entries.get? d =
        if Descriptor.ofBuiltin .str = d then
          some ⟨{ target := .ofBuiltin .str, parse := .ok ∘ .text, lenient := true }, 0⟩
        else none := by
      rfl
    rw [hentries] at hentry
    split at hentry <;> cases hentry
    rfl
  have hbuilt : .ok (.ref "Route") ∈ built.1 := .head _
  obtain ⟨hnames, htexts⟩ := buildAll_no_dangling routes new hnew hplain [classType "Route"]
    [.any, classType "Point"] (.ref "Route") (.inl hbuilt)
  exact ⟨hnew, hplain, hbuilt, hnames "Route" (.head _), (htexts "#/").1 _ (.head _)⟩

end Blueprint

end ApiShape
