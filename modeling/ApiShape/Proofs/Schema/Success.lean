import ApiShape.Proofs.Schema.Growth

/-!
# When synthesis succeeds

Synthesis at a type has three ways to fail: a layer is refused, a collision is raised, or types nest
too deep. `wp_sound` leaves only the last one where every type within reach has its schema and no
collision can be raised.

* **`Layer.IsSound`** — the layer is not refused and its parts are there.
* **`Tidy`** — the namer tells the types in scope apart, and the state holds nothing but their
  names and bodies. In a tidy state a name is free until its type is named (`Tidy.unused`).
* **`Quiet`** — no collision can be raised.
-/

namespace ApiShape

/-- The layer is not refused, and the parts of a body can be listed. -/
def Layer.IsSound : Layer → Prop
  | .refused _ | .named (.error _) => False
  | _ => True

namespace Blueprint

open ApiShape.Action

variable {bp : Blueprint} {budget : Nat} {known : Descriptor → Option Schema}
  {region scope : Descriptor → Prop} {s s₁ s' : State} {d : Descriptor}

/-- The names of the records and sums in scope are distinct, and the state holds no other names,
and only entries of names. -/
structure Tidy (bp : Blueprint) (scope : Descriptor → Prop) (s : State) : Prop where
  distinct : ∀ d e, scope d → scope e → bp.env.IsNamed d → bp.env.IsNamed e →
    bp.namer d = bp.namer e → d = e
  names : ∀ d n, s.refs.get? d = some n →
    n = bp.namer d ∧ d.nonNull = d ∧ scope d ∧ bp.env.IsNamed d
  entries : ∀ n e, s.schemas.get? n = some e → ∃ d, s.refs.get? d = some n

/-- In a tidy state two types have two names. -/
theorem Tidy.eq_of_name (h : bp.Tidy scope s) {d e : Descriptor} {n : String}
    (hd : s.refs.get? d = some n) (he : s.refs.get? e = some n) : d = e := by
  obtain ⟨hn, -, hscope, hnamed⟩ := h.names d n hd
  obtain ⟨hn', -, hscope', hnamed'⟩ := h.names e n he
  exact h.distinct d e hscope hscope' hnamed hnamed' (hn.symm.trans hn')

/-- Naming a type within the scope keeps the state tidy. -/
theorem Tidy.naming (h : bp.Tidy scope s) (hscope : scope d.nonNull)
    (hnamed : bp.env.IsNamed d) : bp.Tidy scope (bp.naming s d.nonNull) where
  distinct := h.distinct
  names e n hname := by
    rw [Blueprint.naming, Table.get?_set] at hname
    split at hname
    · next hde =>
      subst hde
      exact ⟨(Option.some.inj hname).symm, rfl, hscope, hnamed⟩
    · exact h.names e n hname
  entries n e hentry := by
    obtain ⟨f, hf⟩ := h.entries n e hentry
    by_cases hdf : d.nonNull = f
    · obtain ⟨rfl, -⟩ := h.names f n hf
      exact ⟨f, by rw [Blueprint.naming, Table.get?_set, if_pos hdf, hdf]⟩
    · exact ⟨f, by rw [Blueprint.naming, Table.get?_set, if_neg hdf]; exact hf⟩

/-- Growth within the scope keeps the state tidy. -/
theorem Tidy.grow (h : bp.Tidy scope s) (hgrows : bp.Grows known scope s s') :
    bp.Tidy scope s' where
  distinct := h.distinct
  names d n hname := by
    cases hold : s.refs.get? d with
    | none =>
      obtain ⟨hn, hnonNull, hscope, t, hbody, -⟩ := hgrows.fresh d n hold hname
      exact ⟨hn, hnonNull, hscope, hbody.isNamed⟩
    | some m =>
      obtain rfl := hgrows.name_eq hold hname
      exact h.names d m hold
  entries n e hentry := by
    rcases hgrows.origin n e hentry with hold | ⟨d, -, hname, -⟩
    · obtain ⟨d, hname⟩ := h.entries n e hold
      exact ⟨d, hgrows.names d n hname⟩
    · exact ⟨d, hname⟩

/-- **In a tidy state, the name that a type gets is free until its body is stored.** -/
theorem Tidy.unused (h : bp.Tidy scope s) (hscope : scope d.nonNull) (hnamed : bp.env.IsNamed d)
    (hnone : s.refs.get? d.nonNull = none)
    (hgrows : bp.Grows known scope (bp.naming s d.nonNull) s₁) :
    s₁.schemas.get? (bp.namer d.nonNull) = none := by
  cases hentry : s₁.schemas.get? (bp.namer d.nonNull) with
  | none => rfl
  | some e =>
    exfalso
    -- whoever has the name is the type itself, which has no entry yet
    have hsame : ∀ f, scope f → bp.env.IsNamed f → bp.namer d.nonNull = bp.namer f →
        d.nonNull = f := fun f hf hfnamed hname => h.distinct _ f hscope hf hnamed hfnamed hname
    rcases hgrows.origin _ e hentry with hold | ⟨f, hfnone, hf, hbody⟩
    · -- an old entry
      obtain ⟨f, hf⟩ := h.entries _ e hold
      obtain ⟨hname, -, hfscope, hfnamed⟩ := h.names f _ hf
      rw [← hsame f hfscope hfnamed hname, hnone] at hf
      cases hf
    · -- an entry made in between, by a type that was named after this one
      obtain ⟨hname, -, hfscope, -⟩ := hgrows.fresh f _ hfnone hf
      rw [← hsame f hfscope hbody.isNamed hname, Blueprint.naming, Table.get?_set,
        if_pos rfl] at hfnone
      cases hfnone

/-- No collision can be raised in the scope: names are not strict, or the state is tidy. -/
def Quiet (bp : Blueprint) (scope : Descriptor → Prop) (s : State) : Prop :=
  bp.strictNames = false ∨ bp.Tidy scope s

theorem Quiet.naming (h : bp.Quiet scope s) (hscope : scope d.nonNull)
    (hnamed : bp.env.IsNamed d) : bp.Quiet scope (bp.naming s d.nonNull) :=
  h.imp id fun htidy => htidy.naming hscope hnamed

theorem Quiet.grow (h : bp.Quiet scope s) (hgrows : bp.Grows known scope s s') :
    bp.Quiet scope s' :=
  h.imp id fun htidy => htidy.grow hgrows

/-- **Synthesis at a type of a sound region fails only as it fails at the types that the type refers
to.** These are visited only if the type has no name yet, and with the name given to it. -/
theorem wp_visits (hclosed : ∀ d e, region d → Refers bp.env known d e → region e)
    (hsound : ∀ d, region d → (bp.env.layer known d).IsSound) (hscope : ∀ d, region d → scope d)
    (hregion : region d.nonNull) (hknown : s.registry.schemaOf? bp.env = known)
    (hquiet : bp.Quiet scope s)
    {fail : Error → State → Prop}
    (hvisit : (bp.env.IsNamed d → s.refs.get? d.nonNull = none) →
      ∀ t ∈ (bp.env.layer known d).types, ∀ s₁ : State,
        s₁.registry.schemaOf? bp.env = known → bp.Quiet scope s₁ →
        (∀ e, s.refs.get? e ≠ none → s₁.refs.get? e ≠ none) →
        (bp.env.IsNamed d → s₁.refs.get? d.nonNull ≠ none) →
        wp (bp.synthesise budget t) (fun _ _ => True) fail s₁) :
    wp (bp.synthesise (budget + 1) d) (fun _ _ => True) fail s := by
  have hlayer : (bp.env.layer known d).IsSound := hsound d.nonNull hregion
  apply wp_synthesise
  rw [hknown]
  cases hfound : bp.env.layer known d with
  | inline found => exact fun _ _ => trivial
  | around wrap inner =>
    -- a type around another one has no name
    have hunnamed : ¬bp.env.IsNamed d := by
      intro hnamed
      rcases hnamed.layer  with ⟨_, h⟩ | ⟨_, h⟩ <;> rw [hfound] at h <;> cases h
    rw [hfound] at hvisit
    exact hvisit (fun h => absurd h hunnamed) inner (List.mem_singleton_self _) s hknown hquiet
      (fun _ h => h) fun h => absurd h hunnamed
  | named content =>
    refine ⟨fun _ _ => trivial, fun hnone => ?_⟩
    cases content with
    -- content that cannot be had is excluded
    | error e =>
      rw [hfound] at hlayer
      exact hlayer.elim
    | ok content =>
      obtain ⟨types, body⟩ := content
      have hnamed : bp.env.IsNamed d := isNamed_of_layer hfound
      have hgrown : ∀ t ∈ types, ∀ s₁, bp.Grows known region (bp.naming s d.nonNull) s₁ →
          wp (bp.synthesise budget t) (bp.Grown known region s₁ t) fail s₁ := by
        -- the types of the content are visited with the name handed out
        intro t ht s₁ hgrows
        have hknown₁ := hgrows.registry.trans hknown
        have htypes : t ∈ (bp.env.layer known d).types := by
          rw [hfound]
          exact ht
        refine wp_grown hclosed (hclosed _ _ hregion (refers_iff.2 ⟨t, htypes, rfl⟩)) hknown₁ ?_
        refine hvisit (fun _ => hnone) t htypes s₁ hknown₁
          ((hquiet.naming (hscope _ hregion) hnamed).grow (hgrows.widen hscope))
          (fun e he => ?_) fun _ => ?_
        · -- names stay while the content is built
          exact hgrows.ne_none (naming_ne_none he)
        · exact hgrows.ne_none (by rw [naming_self]; exact Option.some_ne_none _)
      refine wp_mono (wp_mapM_grown hgrown) ?_ fun _ _ h => h
      rintro schemas s₁ ⟨hgrows, -⟩
      refine wp_mono (wp_stored s₁) (fun _ _ _ => trivial) ?_
      rintro e s' ⟨hstrict, htaken, -⟩
      -- a collision is raised by strict names only, and in a tidy state the name is free
      rcases hquiet with hlax | htidy
      · rw [hlax] at hstrict
        cases hstrict
      · rw [htidy.unused (hscope _ hregion) hnamed hnone (hgrows.widen hscope)] at htaken
        cases htaken
  | refused e =>
    rw [hfound] at hlayer
    exact hlayer.elim

/-- **Where every type within reach has its schema and no collision can be raised, synthesis fails
only on types that nest too deep.** -/
theorem wp_sound (hclosed : ∀ d e, region d → Refers bp.env known d e → region e)
    (hsound : ∀ d, region d → (bp.env.layer known d).IsSound) (hscope : ∀ d, region d → scope d)
    (budget : Nat) :
    ∀ (d : Descriptor) (s : State), region d.nonNull → s.registry.schemaOf? bp.env = known →
      bp.Quiet scope s →
      wp (bp.synthesise budget d) (fun _ _ => True) (fun e _ => e = .exhausted) s := by
  induction budget with
  | zero => exact fun _ _ _ _ _ => rfl
  | succ budget ih =>
    intro d s hregion hknown hquiet
    refine wp_visits hclosed hsound hscope hregion hknown hquiet
      fun _ t ht s₁ hknown₁ hquiet₁ _ _ => ?_
    exact ih t s₁ (hclosed _ _ hregion (refers_iff.2 ⟨t, ht, rfl⟩)) hknown₁ hquiet₁

end Blueprint

end ApiShape
