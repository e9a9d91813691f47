import ApiShape.Proofs.Schema.Translation

/-!
# What synthesis adds to the state

While a record is being built its name is handed out but its body is not there yet, so no invariant
of the table holds at every moment. What does hold is relative to where a call of synthesis started:
the names that it added all have bodies when it returns.

* **`Grows`** — from the first state to the second, names and bodies have only been added.
* **`wp_grows`** — every successful call of synthesis grows the state, and its result stands for the
  type under the names of the new state.

Nothing is assumed of the namer: two types may get one name, and an entry may then be replaced by
another. `Clean` says that it has not been.
-/

namespace ApiShape

namespace Blueprint

open ApiShape.Action

/-- No entry of the table has been replaced: the builder is strict, or has noted no collision. -/
def Clean (bp : Blueprint) (s : State) : Prop := bp.strictNames = true ∨ s.collisions = []

/-- The table has an entry of the name, which is the schema, up to the order of properties, unless
it has been replaced. -/
def Holds (bp : Blueprint) (s : State) (name : String) (schema : Schema) : Prop :=
  ∃ entry, s.schemas.get? name = some entry ∧
    (bp.Clean s → entry = schema ∨ entry.same schema = true)

/-- From `s` to `s'`, names and bodies have only been added, names only to types in `region`. -/
structure Grows (bp : Blueprint) (known : Descriptor → Option Schema)
    (region : Descriptor → Prop) (s s' : State) : Prop where
  registry : s'.registry.schemaOf? bp.env = s.registry.schemaOf? bp.env
  collisions : s.collisions <+: s'.collisions
  /-- Names stay. -/
  names : ∀ d n, s.refs.get? d = some n → s'.refs.get? d = some n
  /-- Entries stay, but may be replaced. -/
  keys : ∀ n, (s.schemas.get? n).isSome → (s'.schemas.get? n).isSome
  /-- Entries stay as they are. -/
  entries : bp.Clean s' → ∀ n e, s.schemas.get? n = some e → s'.schemas.get? n = some e
  /-- A new name is that of the namer, and its body is in the table. -/
  fresh : ∀ d n, s.refs.get? d = none → s'.refs.get? d = some n →
    n = bp.namer d ∧ d.nonNull = d ∧ region d ∧
      ∃ t, Body bp.env known s'.refs.get? d t ∧ bp.Holds s' n t
  /-- A new entry is the body of a type with a new name. -/
  origin : ∀ n e, s'.schemas.get? n = some e → s.schemas.get? n = some e ∨
    ∃ d, s.refs.get? d = none ∧ s'.refs.get? d = some n ∧ Body bp.env known s'.refs.get? d e

variable {bp : Blueprint} {budget : Nat} {known : Descriptor → Option Schema}
  {region : Descriptor → Prop} {s s₁ s' s₂ : State} {d : Descriptor} {name : String}
  {schema : Schema}

/-- Before a clean state all states were clean. -/
theorem Clean.of_prefix (h : bp.Clean s') (hcollisions : s.collisions <+: s'.collisions) :
    bp.Clean s := by
  rcases h with hstrict | hnone
  · exact .inl hstrict
  · rw [hnone] at hcollisions
    exact .inr (List.prefix_nil.1 hcollisions)

/-- A schema that is held stays held while entries stay. -/
theorem Holds.mono (h : bp.Holds s name schema) (hcollisions : s.collisions <+: s'.collisions)
    (hkey : (s.schemas.get? name).isSome → (s'.schemas.get? name).isSome)
    (hentries : bp.Clean s' → ∀ e, s.schemas.get? name = some e → s'.schemas.get? name = some e) :
    bp.Holds s' name schema := by
  obtain ⟨entry, hentry, hequal⟩ := h
  obtain ⟨entry', hentry'⟩ := Option.isSome_iff_exists.1 (hkey (by rw [hentry]; rfl))
  refine ⟨entry', hentry', fun hclean => ?_⟩
  have hstays := hentries hclean entry hentry
  rw [hentry', Option.some.injEq] at hstays
  rw [hstays]
  exact hequal (hclean.of_prefix hcollisions)

namespace Grows

theorem refl (bp : Blueprint) (known : Descriptor → Option Schema) (region : Descriptor → Prop)
    (s : State) : bp.Grows known region s s where
  registry := rfl
  collisions := List.prefix_refl _
  names _ _ h := h
  keys _ h := h
  entries _ _ _ h := h
  fresh d n hnone hsome := by rw [hnone] at hsome; cases hsome
  origin _ _ h := .inl h

/-- A type keeps its name. -/
theorem name_eq (h : bp.Grows known region s s') {n m : String} (hold : s.refs.get? d = some m)
    (hnew : s'.refs.get? d = some n) : m = n := by
  have hstays := h.names d m hold
  rw [hnew, Option.some.injEq] at hstays
  exact hstays.symm

/-- A type that has been named stays named. -/
theorem ne_none (h : bp.Grows known region s s') (hname : s.refs.get? d ≠ none) :
    s'.refs.get? d ≠ none := by
  obtain ⟨n, hn⟩ := Option.ne_none_iff_exists'.1 hname
  rw [h.names d n hn]
  exact Option.some_ne_none n

/-- What the table holds, it holds after growth. -/
theorem holds (hgrows : bp.Grows known region s s') (h : bp.Holds s name schema) :
    bp.Holds s' name schema :=
  h.mono hgrows.collisions (hgrows.keys name) fun hclean => hgrows.entries hclean name

/-- Growth goes on. -/
theorem trans (h : bp.Grows known region s s₁) (h' : bp.Grows known region s₁ s') :
    bp.Grows known region s s' where
  registry := h'.registry.trans h.registry
  collisions := h.collisions.trans h'.collisions
  names d n hname := h'.names d n (h.names d n hname)
  keys n hkey := h'.keys n (h.keys n hkey)
  entries hclean n e hentry :=
    h'.entries hclean n e (h.entries (hclean.of_prefix h'.collisions) n e hentry)
  fresh d n hnone hsome := by
    cases hmid : s₁.refs.get? d with
    | none => exact h'.fresh d n hmid hsome
    | some m =>
      obtain rfl := h'.name_eq hmid hsome
      obtain ⟨hname, hnonNull, hregion, t, hbody, hholds⟩ := h.fresh d m hnone hmid
      exact ⟨hname, hnonNull, hregion, t, hbody.mono fun d => h'.names d.nonNull,
        h'.holds hholds⟩
  origin n e hentry := by
    -- traced back from the last state to the one in between, and from there to the first
    rcases h'.origin n e hentry with hmid | ⟨d, hnone, hsome, hbody⟩
    · rcases h.origin n e hmid with hold | ⟨d, hnone, hsome, hbody⟩
      · exact .inl hold
      · exact .inr ⟨d, hnone, h'.names d n hsome, hbody.mono fun d => h'.names d.nonNull⟩
    · refine .inr ⟨d, ?_, hsome, hbody⟩
      -- a name that was there before would still have been there
      by_contra hold
      exact h.ne_none hold hnone

end Grows

/-- Growth within a region is growth within a wider one. -/
theorem Grows.widen {scope : Descriptor → Prop} (h : bp.Grows known region s s')
    (hscope : ∀ d, region d → scope d) : bp.Grows known scope s s' :=
  { h with
    fresh := fun d n hnone hsome => by
      obtain ⟨hname, hnonNull, hregion, hbody⟩ := h.fresh d n hnone hsome
      exact ⟨hname, hnonNull, hscope d hregion, hbody⟩ }

theorem naming_self : (bp.naming s d).refs.get? d = some (bp.namer d) := by
  rw [naming, Table.get?_set, if_pos rfl]

/-- Naming a type takes no name away. -/
theorem naming_ne_none {e : Descriptor} (hname : s.refs.get? e ≠ none) :
    (bp.naming s d).refs.get? e ≠ none := by
  rw [naming, Table.get?_set]
  split
  · exact Option.some_ne_none _
  · exact hname

/-! ## Storing a body -/

/-- What storing a body under a name does to the state when it succeeds. -/
structure Stored (bp : Blueprint) (name : String) (schema : Schema) (s s' : State) : Prop where
  registry : s'.registry = s.registry
  refs : s'.refs = s.refs
  collisions : s.collisions <+: s'.collisions
  others : ∀ n, n ≠ name → s'.schemas.get? n = s.schemas.get? n
  entry : ∃ e, s'.schemas.get? name = some e ∧ (e = schema ∨ s.schemas.get? name = some e)
  holds : bp.Holds s' name schema
  kept : bp.Clean s' → ∀ e, s.schemas.get? name = some e → s'.schemas.get? name = some e

/-- **Storing fails only with strict names, on a name that has an entry.** -/
theorem wp_stored (s : State) :
    wp (bp.store name schema) (fun _ s' => bp.Stored name schema s s')
      (fun _ s' => bp.strictNames = true ∧ (s.schemas.get? name).isSome ∧
        s'.registry = s.registry ∧ s.collisions <+: s'.collisions) s := by
  have hset : (s.schemas.set name schema).get? name = some schema := by
    rw [Table.get?_set, if_pos rfl]
  have hothers : ∀ n, n ≠ name → (s.schemas.set name schema).get? n = s.schemas.get? n := by
    intro n hn
    rw [Table.get?_set, if_neg (Ne.symm hn)]
  refine wp_store ?_ ?_ ?_
  · -- the name is free
    intro hnone journal
    exact {
      registry := rfl
      refs := rfl
      collisions := List.prefix_refl _
      others := hothers
      entry := ⟨schema, hset, .inl rfl⟩
      holds := ⟨schema, hset, fun _ => .inl rfl⟩
      kept := fun _ e he => by rw [hnone] at he; cases he }
  · -- the entry is equal to the schema and stays
    intro existing hexisting hsame
    exact {
      registry := rfl
      refs := rfl
      collisions := List.prefix_refl _
      others := fun _ _ => rfl
      entry := ⟨existing, hexisting, .inr hexisting⟩
      holds := ⟨existing, hexisting, fun _ => .inr hsame⟩
      kept := fun _ _ he => he }
  · intro existing hexisting hdiffers
    -- with strict names the collision is raised, else the entry is replaced
    refine ⟨fun hstrict journal => ?_, fun hlax journal => ?_⟩
    · exact ⟨hstrict, by rw [hexisting]; rfl, rfl, List.prefix_append _ _⟩
    · exact {
        registry := rfl
        refs := rfl
        collisions := List.prefix_append _ _
        others := hothers
        entry := ⟨schema, hset, .inl rfl⟩
        holds := ⟨schema, hset, fun _ => .inl rfl⟩
        kept := fun hclean => by
          -- the collision has just been noted
          rcases hclean with hstrict | hnone
          · rw [hlax] at hstrict
            cases hstrict
          · simp at hnone }

/-- Storing takes no entry away. -/
theorem Stored.keys (h : bp.Stored name schema s s') (n : String)
    (hkey : (s.schemas.get? n).isSome) : (s'.schemas.get? n).isSome := by
  by_cases hn : n = name
  · obtain ⟨e, he, -⟩ := h.entry
    rw [hn, he]
    rfl
  · rw [h.others n hn]
    exact hkey

/-- Storing replaces no entry of a clean state. -/
theorem Stored.entries (h : bp.Stored name schema s s') (hclean : bp.Clean s') (n : String)
    (e : Schema) (hentry : s.schemas.get? n = some e) : s'.schemas.get? n = some e := by
  by_cases hn : n = name
  · subst hn
    exact h.kept hclean e hentry
  · rw [h.others n hn]
    exact hentry

/-- An entry was there before or is the one that has been stored. -/
theorem Stored.origin (h : bp.Stored name schema s s') (n : String) (e : Schema)
    (hentry : s'.schemas.get? n = some e) :
    s.schemas.get? n = some e ∨ n = name ∧ e = schema := by
  by_cases hn : n = name
  · subst hn
    obtain ⟨e', he', hold⟩ := h.entry
    rw [hentry, Option.some.injEq] at he'
    subst he'
    rcases hold with rfl | hold
    · exact .inr ⟨rfl, rfl⟩
    · exact .inl hold
  · rw [h.others n hn] at hentry
    exact .inl hentry

/-- **Naming a type, growing, and storing its body is growing.** -/
theorem Grows.close (h : bp.Grows known region (bp.naming s d) s₁) (hnonNull : d.nonNull = d)
    (hnone : s.refs.get? d = none) (hregion : region d)
    (hbody : Body bp.env known s₁.refs.get? d schema)
    (hstored : bp.Stored (bp.namer d) schema s₁ s') : bp.Grows known region s s' where
  registry := by
    rw [hstored.registry]
    exact h.registry
  collisions := h.collisions.trans hstored.collisions
  -- naming the type takes no other name away
  names e n hname := by
    rw [hstored.refs]
    refine h.names e n ?_
    have hne : d ≠ e := by
      rintro rfl
      rw [hnone] at hname
      cases hname
    rw [naming, Table.get?_set, if_neg hne]
    exact hname
  keys n hkey := hstored.keys n (h.keys n hkey)
  entries hclean n e hentry :=
    hstored.entries hclean n e (h.entries (hclean.of_prefix hstored.collisions) n e hentry)
  fresh e n hold hnew := by
    rw [hstored.refs] at hnew ⊢
    by_cases hde : d = e
    · -- the name of the type itself, whose body has just been stored
      subst hde
      obtain rfl := h.name_eq naming_self hnew
      exact ⟨rfl, hnonNull, hregion, schema, hbody, hstored.holds⟩
    · obtain ⟨hname, hnonNull', hregion', t, hbody', hholds⟩ :=
        h.fresh e n (by rw [naming, Table.get?_set, if_neg hde]; exact hold) hnew
      exact ⟨hname, hnonNull', hregion', t, hbody',
        hholds.mono hstored.collisions (hstored.keys n) fun hclean => hstored.entries hclean n⟩
  origin n e hentry := by
    rw [hstored.refs]
    -- naming the type has added no entry, so what was there in between is old or a visit's
    rcases hstored.origin n e hentry with hmid | ⟨rfl, rfl⟩
    · rcases h.origin n e hmid with hold | ⟨d', hnone', hsome, hbody'⟩
      · exact .inl hold
      · refine .inr ⟨d', ?_, hsome, hbody'⟩
        rw [naming, Table.get?_set] at hnone'
        split at hnone'
        · cases hnone'
        · exact hnone'
    · exact .inr ⟨d, hnone, h.names d _ naming_self, hbody⟩

/-! ## Synthesis grows the state -/

/-- What a call of synthesis at the type leaves behind when it succeeds. -/
def Grown (bp : Blueprint) (known : Descriptor → Option Schema) (region : Descriptor → Prop)
    (s : State) (d : Descriptor) (schema : Schema) (s' : State) : Prop :=
  bp.Grows known region s s' ∧ Translates bp.env known s'.refs.get? d schema

/-- What any call of synthesis leaves behind when it fails. -/
def Spoilt (bp : Blueprint) (s : State) (_ : Error) (s' : State) : Prop :=
  s'.registry.schemaOf? bp.env = s.registry.schemaOf? bp.env ∧ s.collisions <+: s'.collisions

/-- What fails after growing has failed. -/
theorem Spoilt.of_grows {e : Error} (h : bp.Grows known region s s₁) (h' : bp.Spoilt s₁ e s') :
    bp.Spoilt s e s' :=
  ⟨h'.1.trans h.registry, h.collisions.trans h'.2⟩

/-- The types of a list one after the other. -/
theorem wp_mapM_grown {types : List Descriptor} {fail : Error → State → Prop}
    (hvisit : ∀ t ∈ types, ∀ s₁, bp.Grows known region s s₁ →
      wp (bp.synthesise budget t) (bp.Grown known region s₁ t) fail s₁) :
    wp (types.mapM (bp.synthesise budget))
      (fun schemas s' => bp.Grows known region s s' ∧
        List.Forall₂ (Translates bp.env known s'.refs.get?) types schemas) fail s := by
  refine wp_mapM (fun before schemas s' => bp.Grows known region s s' ∧
    List.Forall₂ (Translates bp.env known s'.refs.get?) before schemas)
    ⟨.refl .., .nil⟩ ?_
  rintro before schemas t s₁ ht ⟨hgrows, hschemas⟩
  refine wp_mono (hvisit t ht s₁ hgrows) ?_ fun _ _ h => h
  rintro schema s' ⟨hgrows', hschema⟩
  refine ⟨hgrows.trans hgrows', List.rel_append ?_ (.cons hschema .nil)⟩
  exact hschemas.imp fun _ _ h => h.mono fun d => hgrows'.names d.nonNull

/-- **Synthesis grows the state, and its result stands for the type.** -/
theorem wp_grows (hclosed : ∀ d e, region d → Refers bp.env known d e → region e) (budget : Nat) :
    ∀ (d : Descriptor) (s : State), region d.nonNull →
      s.registry.schemaOf? bp.env = known →
      wp (bp.synthesise budget d) (bp.Grown known region s d) (bp.Spoilt s) s := by
  induction budget with
  | zero => exact fun d s _ _ => ⟨rfl, List.prefix_refl _⟩
  | succ budget ih =>
    intro d s hregion hknown
    have hspoilt : ∀ e, bp.Spoilt s e s := fun e => ⟨rfl, List.prefix_refl _⟩
    have hrefers : ∀ t ∈ (bp.env.layer known d).types, region t.nonNull := fun t ht =>
      hclosed d.nonNull t.nonNull hregion (refers_iff.2 ⟨t, ht, rfl⟩)
    apply wp_synthesise
    rw [hknown]
    cases hlayer : bp.env.layer known d with
    -- a known schema may install a converter
    | inline found =>
      intro after hafter
      have hgrows : bp.Grows known region s { s with registry := after } :=
        { Grows.refl bp known region s with registry := hafter }
      exact ⟨hgrows, translates_iff.2 (by rw [hlayer])⟩
    | around wrap inner =>
      rw [hlayer] at hrefers
      -- the schema is put around that of the inner type
      refine wp_mono (ih inner s (hrefers inner (List.mem_singleton_self _)) hknown) ?_
        fun _ _ h => h
      rintro schema s' ⟨hgrows, hschema⟩
      exact ⟨hgrows, translates_iff.2 (by rw [hlayer]; exact ⟨schema, hschema, rfl⟩)⟩
    | named content =>
      have href : ∀ {s' : State} {name : String}, s'.refs.get? d.nonNull = some name →
          Translates bp.env known s'.refs.get? d (.ref name) := fun hname =>
        translates_iff.2 (by rw [hlayer]; exact ⟨_, hname, rfl⟩)
      -- the type has been named before, or its content is built now
      refine ⟨fun name hname => ⟨.refl .., href hname⟩, fun hnone => ?_⟩
      cases content with
      | error e => exact hspoilt e
      | ok content =>
        obtain ⟨types, body⟩ := content
        rw [hlayer] at hrefers
        -- the types of the body are visited from the state that has the name but not the body
        have hvisit : ∀ t ∈ types, ∀ s₁, bp.Grows known region (bp.naming s d.nonNull) s₁ →
            wp (bp.synthesise budget t) (bp.Grown known region s₁ t)
              (bp.Spoilt (bp.naming s d.nonNull)) s₁ := fun t ht s₁ hgrows =>
          wp_mono (ih t s₁ (hrefers t ht) (hgrows.registry.trans hknown)) (fun _ _ h => h)
            fun _ _ h => h.of_grows hgrows
        refine wp_mono (wp_mapM_grown hvisit) ?_ fun _ _ h => h
        rintro schemas s₁ ⟨hgrows, hschemas⟩
        refine wp_mono (wp_stored s₁) ?_ ?_
        · -- the body that has been stored is that of the type
          intro _ s' hstored
          have hbody : Body bp.env known s₁.refs.get? d.nonNull (body schemas) :=
            ⟨types, body, schemas, hlayer, hschemas, rfl⟩
          have hgrown := hgrows.close rfl hnone hregion hbody hstored
          refine ⟨hgrown, href ?_⟩
          rw [hstored.refs]
          exact hgrows.names _ _ naming_self
        · rintro e s' ⟨-, -, hregistry, hcollisions⟩
          -- a collision is raised
          exact ⟨by rw [hregistry]; exact hgrows.registry, hgrows.collisions.trans hcollisions⟩
    | refused e => exact hspoilt e

/-- What is known of the failures of synthesis can be proved apart from what it leaves behind. -/
theorem wp_grown (hclosed : ∀ d e, region d → Refers bp.env known d e → region e)
    (hregion : region d.nonNull) (hknown : s.registry.schemaOf? bp.env = known)
    {fail : Error → State → Prop}
    (h : wp (bp.synthesise budget d) (fun _ _ => True) fail s) :
    wp (bp.synthesise budget d) (bp.Grown known region s d) fail s :=
  wp_mono (wp_and h (wp_grows hclosed budget d s hregion hknown)) (fun _ _ h => h.2)
    fun _ _ h => h.1

end Blueprint

end ApiShape
