import ApiShape.Types.Describe
import Mathlib.Data.List.Induction

/-!
# Unions of type expressions

`TypeExpr.unionOf` flattens and drops duplicates, so what it builds has a normal form.

* **`TypeExpr.Canonical`** — every union in the type expression is in normal form.
* **`canonical_unionOf`**, **`canonical_subst`** — building unions and replacing type variables stay
  within canonical type expressions.
* **`unionOf_null_right`**, **`unionOf_null_left`** — the union of a type expression with null has
  the members of the type expression, and null.
-/

namespace ApiShape

namespace TypeExpr

variable {a b : TypeExpr} {as bs kept : List TypeExpr}

/-- The type expression is a union. -/
def isUnion : TypeExpr → Bool
  | union _ => true
  | _ => false

mutual

/-- Every union has at least two members, no union among them, and no two that denote the same
type. -/
def Canonical : TypeExpr → Prop
  | union ms => 2 ≤ ms.length ∧ (∀ m ∈ ms, m.isUnion = false) ∧
      ms.Pairwise (alike · · = false) ∧ AllCanonical ms
  | sequence _ a | annotated a _ => Canonical a
  | tuple as | applied _ as | specialised _ as => AllCanonical as
  | mapping _ k v => Canonical k ∧ Canonical v
  | _ => True

def AllCanonical : List TypeExpr → Prop
  | [] => True
  | a :: as => Canonical a ∧ AllCanonical as

end

theorem allCanonical_iff : AllCanonical as ↔ ∀ a ∈ as, a.Canonical := by
  induction as with
  | nil => simp [AllCanonical]
  | cons a as ih => rw [AllCanonical, ih, List.forall_mem_cons]

/-! ## Members -/

/-- A type that is no union is its only member. -/
theorem members_of_isUnion (h : a.isUnion = false) : a.members = [a] := by
  cases a <;> first | rfl | cases h

/-- No member of a union is a union. -/
theorem members_flat (h : a.Canonical) : ∀ m ∈ a.members, m.isUnion = false ∧ m.Canonical := by
  intro m hm
  cases hunion : a.isUnion with
  | false =>
    rw [members_of_isUnion hunion, List.mem_singleton] at hm
    rw [hm]
    exact ⟨hunion, h⟩
  | true =>
    cases a with
    | union ms =>
      obtain ⟨-, hflat, -, hall⟩ := h
      exact ⟨hflat m hm, allCanonical_iff.1 hall m hm⟩
    | _ => cases hunion

/-- No member of a union is like another one. -/
theorem members_pairwise (h : a.Canonical) : a.members.Pairwise (alike · · = false) := by
  cases hunion : a.isUnion with
  | false =>
    rw [members_of_isUnion hunion]
    exact List.pairwise_singleton _ _
  | true =>
    cases a with
    | union ms => exact h.2.2.1
    | _ => cases hunion

/-- Every type has a member. -/
theorem members_ne_nil (h : a.Canonical) : a.members ≠ [] := by
  cases hunion : a.isUnion with
  | false => simp [members_of_isUnion hunion]
  | true =>
    cases a with
    | union ms =>
      rintro rfl
      exact absurd h.1 (by decide)
    | _ => cases hunion

theorem flatMap_members (h : ∀ a ∈ as, a.isUnion = false) : as.flatMap members = as := by
  induction as with
  | nil => rfl
  | cons a as ih =>
    rw [List.forall_mem_cons] at h
    rw [List.flatMap_cons, members_of_isUnion h.1, ih h.2, List.singleton_append]

/-! ## Duplicates -/

/-- Null denotes the same type as itself only. -/
theorem alike_null : alike a null = decide (a = null) := by
  cases a <;> simp [alike]

theorem null_alike : alike null a = decide (null = a) := by
  cases a <;> simp [alike]

/-- A last type is kept unless one before it is like it. -/
theorem distinct_append_singleton : distinct (as ++ [a]) =
    if (distinct as).any (alike · a) then distinct as else distinct as ++ [a] := by
  rw [distinct, List.foldl_append]
  rfl

/-- What is kept are members, no two of which denote the same type. -/
theorem distinct_spec (as : List TypeExpr) :
    (distinct as).Pairwise (alike · · = false) ∧ (∀ a ∈ distinct as, a ∈ as) ∧
      (as ≠ [] → distinct as ≠ []) := by
  induction as using List.reverseRecOn with
  | nil => exact ⟨List.Pairwise.nil, fun _ h => h, fun h => absurd rfl h⟩
  | append_singleton as a ih =>
    obtain ⟨hpairwise, hmem, -⟩ := ih
    rw [distinct_append_singleton]
    split
    · -- seen before: nothing is added
      next hany =>
      refine ⟨hpairwise, fun b hb => List.mem_append_left _ (hmem b hb), fun _ hnil => ?_⟩
      rw [hnil] at hany
      cases hany
    · -- new: unlike all that were kept
      next hnew =>
      refine ⟨?_, ?_, fun _ => by simp⟩
      · refine List.pairwise_append.2 ⟨hpairwise, List.pairwise_singleton _ _, ?_⟩
        intro b hb c hc
        rw [List.mem_singleton] at hc
        simpa [hc] using fun heq => hnew (List.any_eq_true.2 ⟨b, hb, heq⟩)
      · intro b hb
        rw [List.mem_append] at hb ⊢
        exact hb.imp_left (hmem b)

/-- A list without duplicates stays as it is. -/
theorem distinct_of_pairwise (h : as.Pairwise (alike · · = false)) : distinct as = as := by
  induction as using List.reverseRecOn with
  | nil => rfl
  | append_singleton as a ih =>
    rw [List.pairwise_append] at h
    rw [distinct_append_singleton, ih h.1, if_neg]
    rw [List.any_eq_true]
    rintro ⟨b, hb, heq⟩
    rw [h.2.2 b hb a (List.mem_singleton_self a)] at heq
    cases heq

/-- A null at the end is dropped if there is one before. -/
theorem distinct_append_null (h : as.Pairwise (alike · · = false)) :
    distinct (as ++ [null]) = if null ∈ as then as else as ++ [null] := by
  rw [distinct_append_singleton, distinct_of_pairwise h]
  simp [alike_null]

/-- Behind a null at the front, others are dropped. -/
theorem distinct_null_cons (h : as.Pairwise (alike · · = false)) :
    distinct (null :: as) = null :: as.filter (· ≠ null) := by
  induction as using List.reverseRecOn with
  | nil => rfl
  | append_singleton as a ih =>
    rw [List.pairwise_append] at h
    rw [← List.cons_append, distinct_append_singleton, ih h.1, List.filter_append]
    -- null is there already, whether it comes first or later
    by_cases ha : a = null
    · -- any other type is dropped only where it was met before
      simp [ha, alike_null]
    · rw [if_neg]
      · simp [ha]
      · rw [List.any_eq_true]
        rintro ⟨b, hb, heq⟩
        rcases List.mem_cons.1 hb with rfl | hb
        · rw [null_alike, decide_eq_true_iff] at heq
          exact ha heq.symm
        · rw [h.2.2 b (List.mem_filter.1 hb).1 a (List.mem_singleton_self a)] at heq
          cases heq

/-! ## Building unions -/

/-- Types of several distinct members make the union of these. -/
theorem unionOf_of_distinct (h : distinct (as.flatMap members) = bs) (hlength : 2 ≤ bs.length) :
    unionOf as = union bs := by
  rw [unionOf, h]
  split
  · simp at hlength
  · rfl

/-- A list that is flat and has no duplicates is the union's list of members. -/
theorem unionOf_of_flat (hlength : 2 ≤ as.length) (hflat : ∀ a ∈ as, a.isUnion = false)
    (hpairwise : as.Pairwise (alike · · = false)) : unionOf as = union as := by
  refine unionOf_of_distinct ?_ hlength
  rw [flatMap_members hflat, distinct_of_pairwise hpairwise]

/-- **A union of canonical type expressions is canonical.** -/
theorem canonical_unionOf (h : ∀ a ∈ as, a.Canonical) (hne : as ≠ []) : (unionOf as).Canonical := by
  obtain ⟨hpairwise, hmem, hkept⟩ := distinct_spec (as.flatMap members)
  have hmembers : ∀ m ∈ distinct (as.flatMap members), m.isUnion = false ∧ m.Canonical := by
    intro m hm
    obtain ⟨a, ha, hma⟩ := List.mem_flatMap.1 (hmem m hm)
    exact members_flat (h a ha) m hma
  have hnonempty : distinct (as.flatMap members) ≠ [] := by
    obtain ⟨a, ha⟩ := List.exists_mem_of_ne_nil as hne
    obtain ⟨m, hm⟩ := List.exists_mem_of_ne_nil _ (members_ne_nil (h a ha))
    exact hkept (List.ne_nil_of_mem (List.mem_flatMap.2 ⟨a, ha, hm⟩))
  rw [unionOf]
  split
  · next m hsingle =>
    rw [hsingle] at hmembers
    exact (hmembers m (List.mem_singleton_self m)).2
  · next hmany =>
    refine ⟨?_, fun m hm => (hmembers m hm).1, hpairwise,
      allCanonical_iff.2 fun m hm => (hmembers m hm).2⟩
    -- neither empty nor a single member
    rcases hlist : distinct (as.flatMap members) with _ | ⟨m, _ | ⟨_, _⟩⟩
    · exact absurd hlist hnonempty
    · exact absurd hlist (hmany m)
    · simp

/-- The union with null on the right: a null is put last unless there is one. -/
theorem unionOf_null_right (h : a.Canonical) (hne : a ≠ null) :
    unionOf [a, null] =
      union (if null ∈ a.members then a.members else a.members ++ [null]) := by
  refine unionOf_of_distinct ?_ ?_
  · rw [← distinct_append_null (members_pairwise h)]
    rfl
  · split
    · -- a type that is null in part is a union, and has two members at least
      next hmem =>
      cases hunion : a.isUnion with
      | false =>
        rw [members_of_isUnion hunion, List.mem_singleton] at hmem
        exact absurd hmem.symm hne
      | true =>
        cases a with
        | union ms => exact h.1
        | _ => cases hunion
    · have hpos := List.length_pos_iff.2 (members_ne_nil h)
      simp only [List.length_append, List.length_singleton]
      omega

/-- The union with null on the left: null is the first member. -/
theorem unionOf_null_left (h : a.Canonical) (hne : a ≠ null) :
    unionOf [null, a] = union (null :: a.members.filter (· ≠ null)) := by
  refine unionOf_of_distinct ?_ ?_
  · rw [← distinct_null_cons (members_pairwise h)]
    simp [members]
  · -- a member that is not null: the type expression itself, or one of the two first of a union
    suffices hother : ∃ m ∈ a.members, m ≠ null by
      obtain ⟨m, hm, hnotNull⟩ := hother
      have hpos : 0 < (a.members.filter (· ≠ null)).length :=
        List.length_pos_of_mem (List.mem_filter.2 ⟨hm, by simpa using hnotNull⟩)
      simp only [List.length_cons]
      omega
    cases hunion : a.isUnion with
    | false => exact ⟨a, by simp [members_of_isUnion hunion], hne⟩
    | true =>
      cases a with
      | union ms =>
        obtain ⟨hlength, -, hpairwise, -⟩ := h
        match ms, hlength, hpairwise with
        | m :: n :: _, _, hpairwise =>
          by_cases hm : m = null
          · refine ⟨n, by simp [members], fun hn => ?_⟩
            have halike := (List.pairwise_cons.1 hpairwise).1 n List.mem_cons_self
            rw [hm, hn, null_alike] at halike
            simp at halike
          · exact ⟨m, by simp [members], hm⟩
      | _ => cases hunion

/-! ## Replacing type variables -/

theorem length_substAll (σ : String → Option TypeExpr) (as : List TypeExpr) :
    (substAll σ as).length = as.length := by
  induction as with
  | nil => rfl
  | cons a as ih => rw [substAll, List.length_cons, ih, List.length_cons]

/-- The types of a list come from those before variables were replaced. -/
theorem mem_substAll {σ : String → Option TypeExpr} (h : b ∈ substAll σ as) :
    ∃ a ∈ as, a.subst σ = b := by
  induction as with
  | nil => cases h
  | cons a as ih =>
    rw [substAll] at h
    rcases List.mem_cons.1 h with rfl | h
    · exact ⟨a, List.mem_cons_self, rfl⟩
    · obtain ⟨a', ha', heq⟩ := ih h
      exact ⟨a', List.mem_cons_of_mem a ha', heq⟩

theorem canonical_withNotes {ns : List Note} (h : a.Canonical) : (a.withNotes ns).Canonical := by
  cases a <;> exact h

/-- **Type expressions stay canonical when canonical ones are put in for their variables.** -/
theorem canonical_subst {σ : String → Option TypeExpr} (hσ : ∀ n b, σ n = some b → b.Canonical) :
    ∀ a : TypeExpr, a.Canonical → (a.subst σ).Canonical
  | typeVar n, _ => by
    rw [subst]
    cases hn : σ n with
    | none => trivial
    | some b => exact hσ n b hn
  -- members may merge, so the union is formed anew; it keeps at least one member
  | union ms, h => by
    rw [subst]
    refine canonical_unionOf ?_ ?_
    · exact allCanonical_iff.1 (canonical_substAll hσ ms h.2.2.2)
    · intro hnil
      have hlength := length_substAll σ ms
      rw [hnil] at hlength
      have := h.1
      rw [← hlength] at this
      cases this
  | sequence _ a, h => canonical_subst hσ a h
  | tuple as, h => canonical_substAll hσ as h
  | mapping _ k v, h => ⟨canonical_subst hσ k h.1, canonical_subst hσ v h.2⟩
  | applied _ as, h => canonical_substAll hσ as h
  | specialised _ as, h => canonical_substAll hσ as h
  | annotated a _, h => canonical_withNotes (canonical_subst hσ a h)
  | null, _ | any, _ | named _, _ | bare _, _ | forward .., _ | literal _, _ | unexamined _, _ =>
    trivial
where
  canonical_substAll {σ : String → Option TypeExpr} (hσ : ∀ n b, σ n = some b → b.Canonical) :
      ∀ as : List TypeExpr, AllCanonical as → AllCanonical (substAll σ as)
    | [], _ => trivial
    | a :: as, h => ⟨canonical_subst hσ a h.1, canonical_substAll hσ as h.2⟩

end TypeExpr

end ApiShape
