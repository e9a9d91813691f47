import ApiShape.Text.Split

/-!
# The first occurrence of a marker

`cutAt?` finds the first occurrence of a marker. A reader that gets its text piece by piece asks for
it again whenever the text has grown, so two facts decide whether it may throw bytes away:

* **`cutAt?_append_of_some`** — an occurrence that has been found stays the first one, whatever
  follows;
* **`cutAt?_append_of_none`** — where none has been found, all but the last `marker.length - 1`
  items can be set aside: no later occurrence begins among them.

What is found is told without a search: `cutAt?_eq_none_iff` by the lists that the marker lies
inside, and `cutAt?_eq_some` by the marker at the end of a text and nowhere before (`EndsAtFirst`).

A writer has to know that a marker is found where it has been put and not before:

* **`Clear.cutAt?_marker`** — text in which no occurrence begins is cut off whole;
* `clear_of_not_infix` — such an occurrence lies inside the text or runs over its end.
-/

namespace ApiShape.Text

variable {α : Type} [DecidableEq α] {marker s before after : List α}

/-- A text that is at least as long as the marker shows whether the marker stands at its head, and
what is appended to it does not matter. -/
theorem isPrefixOf_append_eq (hlen : marker.length ≤ s.length) (t : List α) :
    marker.isPrefixOf (s ++ t) = marker.isPrefixOf s := by
  rw [Bool.eq_iff_iff, List.isPrefixOf_iff_prefix, List.isPrefixOf_iff_prefix]
  constructor
  · intro h
    exact List.prefix_of_prefix_length_le h (List.prefix_append s t) hlen
  · intro h
    exact h.trans (List.prefix_append s t)

/-- **An occurrence that has been found stays the first one.** Induction on the text: every earlier
position was refused with the whole marker in sight. -/
theorem cutAt?_append_of_some (t : List α) (h : cutAt? marker s = some (before, after)) :
    cutAt? marker (s ++ t) = some (before, after ++ t) := by
  induction s generalizing before with
  | nil =>
    simp only [cutAt?] at h
    split at h
    · next hm =>
      simp only [Option.some.injEq, Prod.mk.injEq] at h
      obtain ⟨rfl, rfl⟩ := h
      cases t <;> simp [cutAt?, hm]
    · simp at h
  | cons c rest ih =>
    have hlen : marker.length ≤ (c :: rest).length := by have := length_of_cutAt? h; omega
    have hhead := isPrefixOf_append_eq hlen t
    rw [List.cons_append] at hhead ⊢
    simp only [cutAt?] at h ⊢
    rw [hhead]
    split at h
    · -- found here: what is behind grows
      next hp =>
      simp only [Option.some.injEq, Prod.mk.injEq] at h
      obtain ⟨rfl, rfl⟩ := h
      rw [if_pos hp, ← List.cons_append, List.drop_append_of_le_length hlen]
    · -- found later, and not here, as the marker fits into the text that is there
      next hp =>
      obtain ⟨⟨b, a⟩, hb, hba⟩ := Option.map_eq_some_iff.1 h
      simp only [Prod.mk.injEq] at hba
      obtain ⟨rfl, rfl⟩ := hba
      rw [if_neg hp, ih hb]
      rfl

/-- **Items in front of a possible occurrence can be set aside.** Where the marker has not been
found, the first `k` items are not the beginning of an occurrence, as long as a marker's length of
items stands behind each of them. -/
theorem cutAt?_append_of_none (t : List α) (h : cutAt? marker s = none) {k : Nat}
    (hk : k + (marker.length - 1) ≤ s.length) :
    cutAt? marker (s ++ t) =
      (cutAt? marker (s.drop k ++ t)).map fun (before, after) => (s.take k ++ before, after) := by
  induction k generalizing s with
  | zero => simp
  | succ k ih =>
    cases s with
    | nil => simp at hk
    | cons c rest =>
      have hlen : marker.length ≤ (c :: rest).length := by
        simp only [List.length_cons] at hk ⊢
        omega
      have hhead := isPrefixOf_append_eq hlen t
      rw [List.cons_append] at hhead ⊢
      simp only [cutAt?] at h ⊢
      rw [hhead]
      -- the marker was not here, and what comes later cannot make it start here
      split at h
      · simp at h
      · next hp =>
        have hrest : cutAt? marker rest = none := Option.map_eq_none_iff.1 h
        have hk' : k + (marker.length - 1) ≤ rest.length := by
          simp only [List.length_cons] at hk; omega
        rw [if_neg hp, ih hrest hk', List.drop_succ_cons, Option.map_map]
        rfl

/-! ## What is found -/

/-- Nothing is found where the marker does not occur. -/
theorem cutAt?_eq_none_iff : cutAt? marker s = none ↔ ¬ marker <:+: s := by
  induction s with
  | nil => by_cases hmarker : marker = [] <;> simp [cutAt?, hmarker]
  | cons c rest ih =>
    rw [cutAt?, List.infix_cons_iff, not_or, ← ih, ← List.isPrefixOf_iff_prefix]
    split
    · next hp => simp [hp]
    · next hp => simp [hp]

/-- A cut is made around the marker. -/
theorem eq_of_cutAt? (h : cutAt? marker s = some (before, after)) :
    s = before ++ (marker ++ after) := by
  induction s generalizing before with
  | nil =>
    rw [cutAt?] at h
    split at h
    · next hmarker =>
      cases h
      rw [hmarker]
      rfl
    · cases h
  | cons c rest ih =>
    rw [cutAt?] at h
    split at h
    · next hp =>
      obtain ⟨t, ht⟩ := List.isPrefixOf_iff_prefix.1 hp
      cases h
      rw [← ht, List.drop_left, List.nil_append]
    · obtain ⟨⟨b, a⟩, hrest, hcut⟩ := Option.map_eq_some_iff.1 h
      cases hcut
      rw [List.cons_append, ← ih hrest]

/-- The text ends with the marker, which occurs nowhere before. -/
def EndsAtFirst (marker s : List α) : Prop := marker <:+ s ∧ ¬ marker <:+: s.dropLast

/-- **What is found is the first occurrence.** An earlier one would have been found in the text
without its last item, and an occurrence that has been found stays the first one. -/
theorem cutAt?_eq_some (hne : marker ≠ []) (h : cutAt? marker s = some (before, after)) :
    s = (before ++ marker) ++ after ∧ EndsAtFirst marker (before ++ marker) := by
  have hs : s = (before ++ marker) ++ after := by
    rw [List.append_assoc]
    exact eq_of_cutAt? h
  refine ⟨hs, List.suffix_append before marker, fun hearlier => ?_⟩
  have hwhole : before ++ marker ≠ [] := List.append_ne_nil_of_right_ne_nil before hne
  cases hcut : cutAt? marker (before ++ marker).dropLast with
  | none => exact cutAt?_eq_none_iff.1 hcut hearlier
  | some cut =>
    have hsplit :
        (before ++ marker).dropLast ++ ((before ++ marker).getLast hwhole :: after) = s := by
      rw [hs, List.append_cons, List.dropLast_concat_getLast]
    have hfirst := cutAt?_append_of_some ((before ++ marker).getLast hwhole :: after) hcut
    rw [hsplit, h] at hfirst
    have hbefore : cut.1 = before := (congrArg Prod.fst (Option.some.inj hfirst)).symm
    have hlength := length_of_cutAt? hcut
    rw [hbefore, List.length_dropLast, List.length_append] at hlength
    have hpos : 0 < marker.length := List.length_pos_iff.2 hne
    omega

omit [DecidableEq α] in
/-- A text has one beginning that ends at the first occurrence. -/
theorem EndsAtFirst.unique {a b : List α} (ha : EndsAtFirst marker a) (hb : EndsAtFirst marker b)
    (has : a <+: s) (hbs : b <+: s) : a = b := by
  -- of two such beginnings the shorter one would lie in the longer one without its last item
  have hwhole {a b : List α} (ha : EndsAtFirst marker a) (hb : EndsAtFirst marker b)
      (hab : a <+: b) : a = b := by
    rcases Nat.lt_or_eq_of_le hab.length_le with hlt | hlength
    · have hdrop : a <+: b.dropLast := by
        rw [List.dropLast_eq_take, List.prefix_take_iff]
        exact ⟨hab, by omega⟩
      exact absurd (ha.1.isInfix.trans hdrop.isInfix) hb.2
    · exact hab.eq_of_length hlength
  rcases List.prefix_or_prefix_of_prefix has hbs with hab | hba
  · exact hwhole ha hb hab
  · exact (hwhole hb ha hba).symm

/-! ## Finding a marker where it has been put -/

/-- No occurrence of the marker begins in a text when `s` stands behind it. -/
def Clear (marker : List α) : List α → List α → Prop
  | [], _ => True
  | c :: pre, s => ¬ marker <+: c :: (pre ++ s) ∧ Clear marker pre s

variable {pre : List α} {x : α}

omit [DecidableEq α] in
theorem clear_append_iff (marker pre mid s : List α) :
    Clear marker (pre ++ mid) s ↔ Clear marker pre (mid ++ s) ∧ Clear marker mid s := by
  induction pre with
  | nil => simp [Clear]
  | cons c pre ih => simp only [List.cons_append, Clear, List.append_assoc, ih, and_assoc]

/-- **Text in which no occurrence begins is cut off whole.** -/
theorem Clear.cutAt?_marker (h : Clear marker pre (marker ++ s)) :
    cutAt? marker (pre ++ (marker ++ s)) = some (pre, s) := by
  induction pre with
  | nil =>
    rw [List.nil_append]
    cases hs : marker ++ s with
    | nil =>
      obtain ⟨rfl, rfl⟩ := List.append_eq_nil_iff.1 hs
      rfl
    | cons c rest =>
      have hp : marker.isPrefixOf (c :: rest) = true :=
        List.isPrefixOf_iff_prefix.2 (hs ▸ List.prefix_append marker s)
      rw [cutAt?, if_pos hp, ← hs, List.drop_left]
  | cons c pre ih =>
    have hp : ¬ marker.isPrefixOf (c :: (pre ++ (marker ++ s))) = true := by
      rw [List.isPrefixOf_iff_prefix]
      exact h.1
    rw [List.cons_append, cutAt?, if_neg hp, ih h.2]
    rfl

omit [DecidableEq α] in
/-- An occurrence that begins in a text lies inside it or runs over its end. -/
theorem clear_of_not_infix (hinside : ¬ marker <:+: pre)
    (hover : ∀ b t, b ≠ [] → t ≠ [] → b <:+ pre → marker = b ++ t → ¬ t <+: s) :
    Clear marker pre s := by
  induction pre with
  | nil => trivial
  | cons c pre ih =>
    refine ⟨?_, ih (fun h => hinside (h.trans (List.suffix_cons c pre).isInfix)) ?_⟩
    · rintro ⟨r, hr⟩
      rw [← List.cons_append] at hr
      -- the occurrence ends inside the text, or a nonempty rest `t` of it stands at the head of `s`
      rcases List.append_eq_append_iff.1 hr with ⟨t, hpre, -⟩ | ⟨t, hmarker, hs⟩
      · exact hinside ⟨[], t, by rw [List.nil_append, ← hpre]⟩
      · by_cases ht : t = []
        · subst ht
          rw [List.append_nil] at hmarker
          exact hinside (hmarker ▸ List.infix_refl marker)
        · exact hover _ t (List.cons_ne_nil c pre) ht (List.suffix_refl _) hmarker ⟨r, hs.symm⟩
    · intro b t hb ht hsuffix
      exact hover b t hb ht (hsuffix.trans (List.suffix_cons c pre))

omit [DecidableEq α] in
/-- No occurrence begins in a text without the marker's first item. -/
theorem clear_of_not_mem (hx : x ∉ pre) (m s : List α) : Clear (x :: m) pre s := by
  induction pre with
  | nil => trivial
  | cons c pre ih =>
    rw [List.mem_cons, not_or] at hx
    exact ⟨fun hp => hx.1 (List.cons_prefix_cons.1 hp).1, ih hx.2⟩

omit [DecidableEq α] in
/-- A marker whose first item occurs in it only once cannot run over into itself. -/
theorem clear_of_head_not_mem {m : List α} (hx : x ∉ m) (hinside : ¬ (x :: m) <:+: pre)
    (s : List α) : Clear (x :: m) pre ((x :: m) ++ s) := by
  refine clear_of_not_infix hinside fun b t hb ht _ hmarker hprefix => hx ?_
  obtain ⟨c, b, rfl⟩ := List.exists_cons_of_ne_nil hb
  obtain ⟨d, t, rfl⟩ := List.exists_cons_of_ne_nil ht
  obtain rfl : d = x := (List.cons_prefix_cons.1 hprefix).1
  have hm : m = b ++ d :: t := (List.cons.inj hmarker).2
  rw [hm]
  exact List.mem_append_right b List.mem_cons_self

omit [DecidableEq α] in
/-- A marker cannot run over the end of a text whose last item does not occur in it. -/
theorem clear_of_last_not_mem (hx : x ∉ marker) (hinside : ¬ marker <:+: pre)
    (hlast : pre = [] ∨ [x] <:+ pre) (s : List α) : Clear marker pre s := by
  refine clear_of_not_infix hinside fun b t hb _ hsuffix hmarker _ => hx ?_
  rcases hlast with rfl | hlast
  · exact absurd (List.suffix_nil.1 hsuffix) hb
  · have hxb : [x] <:+ b := by
      rcases List.suffix_or_suffix_of_suffix hlast hsuffix with h | h
      · exact h
      · have hone : b = [x] := h.eq_of_length_le (List.length_pos_iff.2 hb)
        exact hone ▸ List.suffix_refl [x]
    rw [hmarker]
    exact List.mem_append_left t (hxb.subset (List.mem_singleton_self x))

end ApiShape.Text
