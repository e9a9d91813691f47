import ApiShape.Proofs.Converter.Refusals
import ApiShape.Proofs.Number.Digits
import ApiShape.Proofs.Sample
import Mathlib.Data.List.Induction
import Mathlib.Data.List.Nodup

/-!
# Enumerations are converted by name, then by value

An enumeration is declared by items, each a name and a value. An item whose value equals that of an
earlier one is no member but another name of the member that the earlier one is. Flags that are not
of a single bit are members, but are not listed. Names, further names and printed values are texts
alike, and one text may be several of them.

* `Prints` — how a value is printed, told without the function that does it.
* `Distinct`, `Canonical`, `Names`, `Printed` — which items are members and which are listed, what a
  member is called, and which listed one is the last with a printed value, told by the declared
  items alone; **`Picks`** puts them in order.
* `holds_ofItems`, `byName?_of_names`, `byValue?_eq_some_iff` — the members made from the items
  keep to them.
* **`members_converted`** — which items make an enumeration, and its converter at every text.
-/

namespace ApiShape

open Number

namespace EnumValue

/-! ## Values -/

/-- The value with a truth value replaced by the number that it equals. -/
def asNumber : EnumValue → EnumValue
  | bool b => int (if b then 1 else 0)
  | v => v

/-- Values are the same member if they are equal as numbers, where they are numbers. -/
theorem same_iff {a b : EnumValue} : a.same b = true ↔ a.asNumber = b.asNumber := by
  cases a with
  | bool x =>
    cases b with
    | bool y => cases x <;> cases y <;> decide
    | int n => simp [same, asNumber, eq_comm (a := n)]
    | null | text => simp [same, asNumber]
  | int n => cases b <;> simp [same, asNumber]
  | null | text => cases b <;> simp [same, asNumber]

theorem same_refl (a : EnumValue) : a.same a = true := same_iff.2 rfl

/-- A value of a single bit is a power of two; true is one. -/
theorem isSingleBit_iff {v : EnumValue} :
    v.isSingleBit = true ↔ ∃ k : Nat, v.asNumber = .int (twoTo k) := by
  cases v with
  | null | text => simp [isSingleBit, asNumber]
  | bool b =>
    cases b with
    | true => exact iff_of_true rfl ⟨0, rfl⟩
    | false =>
      refine iff_of_false Bool.false_ne_true ?_
      rintro ⟨k, hk⟩
      have hpos := twoTo_pos k
      have hzero : (0 : Int) = twoTo k := EnumValue.int.inj hk
      omega
  | int n =>
    simp only [isSingleBit, asNumber, Bool.and_eq_true, decide_eq_true_eq, beq_iff_eq,
      EnumValue.int.injEq]
    constructor
    · rintro ⟨hpos, hbits⟩
      obtain ⟨k, hk⟩ := (Nat.and_sub_one_eq_zero_iff_isPowerOfTwo (by omega)).1 hbits
      have htwo : n.toNat = twoTo k := hk
      exact ⟨k, by omega⟩
    · rintro ⟨k, rfl⟩
      have hpos := twoTo_pos k
      refine ⟨by omega, ?_⟩
      rw [Int.toNat_natCast]
      exact (Nat.and_sub_one_eq_zero_iff_isPowerOfTwo (Nat.ne_of_gt hpos)).2 ⟨k, rfl⟩

/-- The text is how the value is printed: a number in its numeral, behind a minus if it is
negative. -/
inductive Prints : EnumValue → String → Prop
  | null : Prints .null "None"
  | true : Prints (.bool true) "True"
  | false : Prints (.bool false) "False"
  | nonnegative {n : Nat} {ds : List Char} (h : Numeral n ds) : Prints (.int n) (String.ofList ds)
  | negative {n : Nat} {ds : List Char} (hpos : 0 < n) (h : Numeral n ds) :
      Prints (.int (-n)) (String.ofList ('-' :: ds))
  | text (s : String) : Prints (.text s) s

/-- A negative number is printed behind a minus. -/
theorem printed_negative (n : Nat) :
    (EnumValue.int (-(n + 1 : Nat))).printed = String.ofList ('-' :: digits (n + 1)) := by
  show "-" ++ String.ofList (digits (n + 1)) = _
  simp

/-- Every value is printed in one way. -/
theorem prints_iff {v : EnumValue} {text : String} : Prints v text ↔ v.printed = text := by
  constructor
  · intro h
    cases h with
    | null | true | false | text => rfl
    | nonnegative h =>
      rw [numeral_iff.1 h]
      rfl
    | @negative n ds hpos h =>
      obtain ⟨m, rfl⟩ := Nat.exists_eq_add_of_le' hpos
      rw [numeral_iff.1 h, printed_negative]
  · rintro rfl
    cases v with
    | null => exact .null
    | bool b =>
      cases b with
      | true => exact .true
      | false => exact .false
    | text s => exact .text s
    | int n =>
      cases n with
      | ofNat n => exact .nonnegative (numeral_iff.2 rfl)
      | negSucc n =>
        show Prints (.int (-(n + 1 : Nat))) (EnumValue.int (-(n + 1 : Nat))).printed
        rw [printed_negative]
        exact .negative n.succ_pos (numeral_iff.2 rfl)

/-- Only numbers cannot be printed, those with too many digits. -/
theorem isPrintable_iff {v : EnumValue} :
    v.isPrintable = true ↔ ∀ n, v = .int n → n.natAbs < tenTo maxDigits := by
  cases v with
  | int n =>
    rw [isPrintable, decide_eq_true_iff, digitCount_le_iff (by decide)]
    exact ⟨fun h m hm => EnumValue.int.inj hm ▸ h, fun h => h n rfl⟩
  | null | bool | text => exact iff_of_true rfl (by rintro n ⟨⟩)

end EnumValue

namespace MemberTable

open EnumValue (Prints prints_iff same_iff same_refl isSingleBit_iff)

variable {items : List (String × EnumValue)} {item m m' : String × EnumValue} {name text : String}
  {flags : Bool}

/-! ## What the items say -/

/-- The item is a member: no earlier item has an equal value. -/
def Distinct (items : List (String × EnumValue)) (m : String × EnumValue) : Prop :=
  ∃ before after, items = before ++ m :: after ∧ ∀ p ∈ before, p.2.same m.2 = false

/-- The item is a listed member: among flags these are the members of a single bit. -/
def Canonical (flags : Bool) (items : List (String × EnumValue)) (m : String × EnumValue) : Prop :=
  Distinct items m ∧ (flags = true → ∃ k : Nat, m.2.asNumber = .int (twoTo k))

/-- The member is called so: an item of that name has a value equal to its own. -/
def Names (items : List (String × EnumValue)) (m : String × EnumValue) (name : String) : Prop :=
  Distinct items m ∧ ∃ value, (name, value) ∈ items ∧ m.2.same value = true

/-- The member is the last listed one whose printed value is the text. -/
def Printed (flags : Bool) (items : List (String × EnumValue)) (m : String × EnumValue)
    (text : String) : Prop :=
  Canonical flags items m ∧ Prints m.2 text ∧ ∃ before after, items = before ++ m :: after ∧
    ∀ p ∈ after, Canonical flags items p → ¬ Prints p.2 text

/-- **The member that a text stands for**, if any: the one that is called so, and if no item has the
text for its name, the last listed one with that printed value, unless the enumeration is strict. -/
inductive Picks (flags : Bool) (items : List (String × EnumValue)) (strict : Bool) (text : String) :
    Option (String × EnumValue) → Prop
  | named {m : String × EnumValue} (h : Names items m text) : Picks flags items strict text (some m)
  | printed {m : String × EnumValue} (hname : ∀ value, (text, value) ∉ items)
      (hlax : strict = false) (h : Printed flags items m text) :
      Picks flags items strict text (some m)
  | nothing (hname : ∀ value, (text, value) ∉ items)
      (hprinted : strict = true ∨ ∀ m, ¬ Printed flags items m text) :
      Picks flags items strict text none

/-- An item makes a member of its own if it is the first with its value. -/
theorem distinct_iff : Distinct items m ↔ items.find? (·.2.same m.2) = some m := by
  simp [List.find?_eq_some_iff_append, Distinct, same_refl]

instance (items : List (String × EnumValue)) : DecidablePred (Distinct items) :=
  fun _ => decidable_of_iff _ distinct_iff.symm

instance (flags : Bool) (items : List (String × EnumValue)) :
    DecidablePred (Canonical flags items) :=
  fun m => decidable_of_iff (Distinct items m ∧ (flags = true → m.2.isSingleBit = true))
    (by rw [isSingleBit_iff]; rfl)

theorem Distinct.mem (h : Distinct items m) : m ∈ items := by
  obtain ⟨before, after, rfl, -⟩ := h
  exact List.mem_append_right before List.mem_cons_self

/-- Members with equal values are one member. -/
theorem Distinct.unique (h : Distinct items m) (h' : Distinct items m')
    (hsame : m.2.same m'.2 = true) : m = m' := by
  have hequal : (fun p : String × EnumValue => p.2.same m.2) = fun p => p.2.same m'.2 := by
    funext p
    rw [Bool.eq_iff_iff, same_iff, same_iff, same_iff.1 hsame]
  rw [distinct_iff] at h h'
  rw [hequal, h'] at h
  exact (Option.some.inj h).symm

/-- Every value is that of a member. -/
theorem exists_distinct (h : item ∈ items) : ∃ m, Distinct items m ∧ m.2.same item.2 = true := by
  cases hfind : items.find? (·.2.same item.2) with
  | none => exact absurd (same_refl item.2) (List.find?_eq_none.1 hfind item h)
  | some m =>
    have hsame : m.2.same item.2 = true := by simpa using List.find?_some hfind
    refine ⟨m, distinct_iff.2 ?_, hsame⟩
    rw [← hfind]
    congr 1
    funext p
    rw [Bool.eq_iff_iff, same_iff, same_iff, same_iff.1 hsame]

/-- Items of one name are one item. -/
theorem Names.unique (hnodup : (items.map (·.1)).Nodup) (h : Names items m name)
    (h' : Names items m' name) : m = m' := by
  obtain ⟨hm, value, hmem, hsame⟩ := h
  obtain ⟨hm', value', hmem', hsame'⟩ := h'
  obtain rfl : value = value' :=
    (Prod.mk.inj (List.inj_on_of_nodup_map hnodup hmem hmem' rfl)).2
  exact hm.unique hm' (same_iff.2 ((same_iff.1 hsame).trans (same_iff.1 hsame').symm))

/-! ## Another item -/

/-- An item that is added behind the others makes no difference to them. -/
theorem distinct_concat_iff (h : m ∈ items) : Distinct (items ++ [item]) m ↔ Distinct items m := by
  rw [distinct_iff, distinct_iff, List.find?_append]
  cases hfind : items.find? (·.2.same m.2) with
  | none => exact absurd (same_refl m.2) (List.find?_eq_none.1 hfind m h)
  | some _ => rfl

theorem Distinct.concat (h : Distinct items m) (item : String × EnumValue) :
    Distinct (items ++ [item]) m := (distinct_concat_iff h.mem).2 h

/-- The item that is added is a member if no member has its value. -/
theorem distinct_last_iff (hnew : item ∉ items) :
    Distinct (items ++ [item]) item ↔ ∀ m, Distinct items m → m.2.same item.2 = false := by
  constructor
  · intro h m hm
    by_contra hsame
    rw [Bool.not_eq_false] at hsame
    obtain rfl : m = item := (hm.concat item).unique h hsame
    exact hnew hm.mem
  · intro hnone
    refine ⟨items, [], rfl, fun p hp => ?_⟩
    obtain ⟨m, hm, hsame⟩ := exists_distinct hp
    by_contra hequal
    rw [Bool.not_eq_false, same_iff] at hequal
    have hmember := hnone m hm
    rw [← Bool.not_eq_true, same_iff] at hmember
    exact hmember ((same_iff.1 hsame).trans hequal)

theorem ofItems_concat (flags : Bool) (items : List (String × EnumValue))
    (item : String × EnumValue) :
    ofItems flags (items ++ [item]) = (ofItems flags items).add flags item.1 item.2 := by
  rw [ofItems, List.foldl_append]
  rfl

/-- An item with a new name is a new one. -/
theorem not_mem_of_nodup_concat (h : ((items ++ [item]).map (·.1)).Nodup) :
    (items.map (·.1)).Nodup ∧ item ∉ items := by
  rw [List.map_append, List.nodup_append] at h
  exact ⟨h.1, fun hmem => h.2.2 _ (List.mem_map_of_mem hmem) _ List.mem_cons_self rfl⟩

/-- The items that are members of which `p` holds, after another item. -/
theorem filter_distinct_concat (p : String × EnumValue → Bool) :
    (items ++ [item]).filter (fun m => decide (Distinct (items ++ [item]) m) && p m) =
      items.filter (fun m => decide (Distinct items m) && p m) ++
        if Distinct (items ++ [item]) item ∧ p item = true then [item] else [] := by
  rw [List.filter_append, List.filter_singleton]
  refine congrArg₂ (· ++ ·) (List.filter_congr fun m hm => ?_) ?_
  · rw [decide_eq_decide.2 (distinct_concat_iff hm)]
  · by_cases hlast : Distinct (items ++ [item]) item <;> cases p item <;> simp [hlast]

/-- The item is listed if it is a member. -/
def isListed (flags : Bool) (m : String × EnumValue) : Bool := !flags || m.2.isSingleBit

/-- The listed members are the members of their own, flags of several bits aside. -/
theorem canonical_iff : Canonical flags items m ↔ Distinct items m ∧ isListed flags m = true := by
  unfold Canonical isListed
  rw [← isSingleBit_iff]
  cases flags <;> simp

/-- The tables hold the items that are members, in order: those that are listed in one, the others
in another. -/
def Holds (flags : Bool) (items : List (String × EnumValue)) (t : MemberTable) : Prop :=
  t.members = items.filter (fun m => decide (Distinct items m) && isListed flags m) ∧
    t.combined = items.filter fun m => decide (Distinct items m) && !isListed flags m

/-- The two tables together hold the members. -/
theorem Holds.mem_iff {t : MemberTable} (h : Holds flags items t) :
    m ∈ t.members ++ t.combined ↔ Distinct items m := by
  rw [h.1, h.2, List.mem_append, List.mem_filter, List.mem_filter]
  constructor
  · rintro (⟨-, hm⟩ | ⟨-, hm⟩) <;> simpa using And.left (by simpa using hm)
  · intro hm
    cases hlisted : isListed flags m with
    | true => exact .inl ⟨hm.mem, by simp [hm]⟩
    | false => exact .inr ⟨hm.mem, by simp [hm]⟩

/-- **The tables hold the members.** -/
theorem holds_ofItems (hnodup : (items.map (·.1)).Nodup) :
    Holds flags items (ofItems flags items) := by
  induction items using List.reverseRecOn with
  | nil => exact ⟨rfl, rfl⟩
  | append_singleton items item ih =>
    obtain ⟨hitems, hnew⟩ := not_mem_of_nodup_concat hnodup
    have hholds := ih hitems
    rw [ofItems_concat, add]
    split
    · next first value hfind =>
      -- the value is taken, so the item is no member
      have hfirst := hholds.mem_iff.1 (List.mem_of_find?_eq_some hfind)
      have hsame : value.same item.2 = true := by simpa using List.find?_some hfind
      have hlast : ¬ Distinct (items ++ [item]) item := fun h =>
        Bool.false_ne_true (((distinct_last_iff hnew).1 h _ hfirst).symm.trans hsame)
      constructor
      · rw [filter_distinct_concat, if_neg fun h => hlast h.1, List.append_nil]
        exact hholds.1
      · rw [filter_distinct_concat, if_neg fun h => hlast h.1, List.append_nil]
        exact hholds.2
    · next hfind =>
      have hlast : Distinct (items ++ [item]) item := (distinct_last_iff hnew).2 fun m hm => by
        simpa using List.find?_eq_none.1 hfind m (hholds.mem_iff.2 hm)
      cases hlisted : isListed flags item with
      | true =>
        have hflags : ¬ (flags && !item.2.isSingleBit) = true := by
          simpa [isListed, imp_iff_not_or] using hlisted
        rw [if_neg hflags]
        constructor
        · rw [filter_distinct_concat, if_pos ⟨hlast, hlisted⟩, ← hholds.1]
        · rw [filter_distinct_concat, if_neg (by simp [hlisted]), List.append_nil]
          exact hholds.2
      | false =>
        have hflags : (flags && !item.2.isSingleBit) = true := by
          simpa [isListed] using hlisted
        rw [if_pos hflags]
        constructor
        · rw [filter_distinct_concat, if_neg (by simp [hlisted]), List.append_nil]
          exact hholds.1
        · rw [filter_distinct_concat, if_pos ⟨hlast, by simp [hlisted]⟩, ← hholds.2]

/-- The items make a member of each item with a new value. -/
theorem mem_all_iff (hnodup : (items.map (·.1)).Nodup) :
    m ∈ (ofItems flags items).members ++ (ofItems flags items).combined ↔ Distinct items m :=
  (holds_ofItems hnodup).mem_iff

/-- The listed members are those of the items. -/
theorem mem_members_iff (hnodup : (items.map (·.1)).Nodup) :
    m ∈ (ofItems flags items).members ↔ Canonical flags items m := by
  rw [(holds_ofItems hnodup).1, List.mem_filter, canonical_iff, Bool.and_eq_true,
    decide_eq_true_iff]
  exact ⟨And.right, fun h => ⟨h.1.mem, h⟩⟩

/-- **A further name leads to the member that is called so**, and every item that is no member is a
further name. -/
theorem aliases_ofItems (hnodup : (items.map (·.1)).Nodup) :
    (∀ name first, (name, first) ∈ (ofItems flags items).aliases →
        ∃ m, Names items m name ∧ m.1 = first) ∧
      ∀ p ∈ items, ¬ Distinct items p →
        ∃ first, (p.1, first) ∈ (ofItems flags items).aliases := by
  induction items using List.reverseRecOn with
  | nil => exact ⟨fun _ _ h => (List.not_mem_nil h).elim, fun _ h => (List.not_mem_nil h).elim⟩
  | append_singleton items item ih =>
    obtain ⟨hitems, hnew⟩ := not_mem_of_nodup_concat hnodup
    obtain ⟨hnames, hrest⟩ := ih hitems
    have hold : ∀ name first, (name, first) ∈ (ofItems flags items).aliases →
        ∃ m, Names (items ++ [item]) m name ∧ m.1 = first := by
      intro name first h
      obtain ⟨m, ⟨hm, value, hmem, hsame⟩, hfirst⟩ := hnames name first h
      exact ⟨m, ⟨hm.concat item, value, List.mem_append_left _ hmem, hsame⟩, hfirst⟩
    have hearlier : ∀ p ∈ items, ¬ Distinct (items ++ [item]) p →
        ∃ first, (p.1, first) ∈ (ofItems flags items).aliases := fun p hp hdistinct =>
      hrest p hp fun h => hdistinct (h.concat item)
    rw [ofItems_concat, add]
    split
    · next first value hfind =>
      have hfirst := (mem_all_iff hitems).1 (List.mem_of_find?_eq_some hfind)
      have hsame : value.same item.2 = true := by simpa using List.find?_some hfind
      constructor
      · intro name other h
        rcases List.mem_append.1 h with h | h
        · exact hold name other h
        · obtain ⟨rfl, rfl⟩ := Prod.mk.inj (List.mem_singleton.1 h)
          exact ⟨_, ⟨hfirst.concat item, item.2, List.mem_append_right _ List.mem_cons_self, hsame⟩,
            rfl⟩
      · intro p hp hdistinct
        rcases List.mem_append.1 hp with hp | hp
        · obtain ⟨other, hother⟩ := hearlier p hp hdistinct
          exact ⟨other, List.mem_append_left _ hother⟩
        · obtain rfl := List.mem_singleton.1 hp
          exact ⟨first, List.mem_append_right _ List.mem_cons_self⟩
    · next hfind =>
      -- the item is a member itself, whichever table it goes to
      have hitem : ∀ p ∈ items ++ [item], ¬ Distinct (items ++ [item]) p →
          ∃ first, (p.1, first) ∈ (ofItems flags items).aliases := by
        intro p hp hdistinct
        rcases List.mem_append.1 hp with hp | hp
        · exact hearlier p hp hdistinct
        · obtain rfl := List.mem_singleton.1 hp
          refine absurd ((distinct_last_iff hnew).2 fun m hm => ?_) hdistinct
          simpa using List.find?_eq_none.1 hfind m ((mem_all_iff hitems).2 hm)
      split <;> exact ⟨hold, hitem⟩

/-! ## What is found -/

/-- A member is found under its own name. -/
theorem find?_member (hnodup : (items.map (·.1)).Nodup) (h : Distinct items m) :
    ((ofItems flags items).members ++ (ofItems flags items).combined).find? (·.1 == m.1) =
      some m := by
  cases hfind : ((ofItems flags items).members ++ (ofItems flags items).combined).find?
      (·.1 == m.1) with
  | none =>
    exact absurd (beq_self_eq_true m.1)
      (List.find?_eq_none.1 hfind m ((mem_all_iff hnodup).2 h))
  | some found =>
    have hname : found.1 = m.1 := by simpa using List.find?_some hfind
    have hfound := (mem_all_iff hnodup).1 (List.mem_of_find?_eq_some hfind)
    rw [List.inj_on_of_nodup_map hnodup hfound.mem h.mem hname]

/-- A member is found by each of its names. -/
theorem byName?_of_names (hnodup : (items.map (·.1)).Nodup) (h : Names items m name) :
    (ofItems flags items).byName? name = some m := by
  rw [byName?]
  cases hlookup : (ofItems flags items).aliases.lookup name with
  | some first =>
    obtain ⟨before, after, heq, -⟩ := List.lookup_eq_some_iff.1 hlookup
    have hmem : (name, first) ∈ (ofItems flags items).aliases :=
      heq ▸ List.mem_append_right before List.mem_cons_self
    obtain ⟨m', hm', rfl⟩ := (aliases_ofItems hnodup).1 name first hmem
    obtain rfl := h.unique hnodup hm'
    exact find?_member hnodup h.1
  | none =>
    obtain ⟨hm, value, hmem, hsame⟩ := h
    have hdistinct : Distinct items (name, value) := by
      by_contra hno
      obtain ⟨first, hfirst⟩ : ∃ first, (name, first) ∈ (ofItems flags items).aliases :=
        (aliases_ofItems hnodup).2 _ hmem hno
      simpa using List.lookup_eq_none_iff.1 hlookup _ hfirst
    obtain rfl := hm.unique hdistinct hsame
    exact find?_member hnodup hm

/-- A name that no item has is the name of no member. -/
theorem byName?_eq_none (hnodup : (items.map (·.1)).Nodup) (h : ∀ value, (name, value) ∉ items) :
    (ofItems flags items).byName? name = none := by
  have hlookup : (ofItems flags items).aliases.lookup name = none := by
    refine List.lookup_eq_none_iff.2 fun p hp => ?_
    by_contra hname
    obtain ⟨m, ⟨-, value, hmem, -⟩, -⟩ := (aliases_ofItems hnodup).1 p.1 p.2 hp
    have hequal : name = p.1 := by simpa using hname
    exact h value (hequal ▸ hmem)
  rw [byName?, hlookup]
  refine List.find?_eq_none.2 fun p hp hname => ?_
  have hequal : p.1 = name := by simpa using hname
  exact h p.2 (hequal ▸ ((mem_all_iff hnodup).1 hp).mem)

/-- The member found by a printed value is the last listed one that is printed so. -/
theorem byValue?_eq_some_iff (hnodup : (items.map (·.1)).Nodup) :
    (ofItems flags items).byValue? text = some m ↔ Printed flags items m text := by
  rw [byValue?, (holds_ofItems hnodup).1, ← List.filter_reverse, List.find?_filter,
    List.find?_eq_some_iff_append]
  simp only [Bool.and_eq_true, decide_eq_true_iff, beq_iff_eq, Bool.not_eq_true',
    decide_eq_false_iff_not, and_assoc, Printed, canonical_iff, prints_iff]
  refine and_congr_right fun _ => and_congr_right fun _ => and_congr_right fun _ => ⟨?_, ?_⟩
  · rintro ⟨after, before, hsplit, hlater⟩
    refine ⟨before.reverse, after.reverse, ?_, fun p hp hcanonical htext => ?_⟩
    · rw [← List.reverse_reverse items, hsplit]
      simp
    · exact hlater p (List.mem_reverse.1 hp) ⟨hcanonical.1, hcanonical.2, htext⟩
  · rintro ⟨before, after, rfl, hlater⟩
    refine ⟨after.reverse, before.reverse, by simp, fun p hp => ?_⟩
    rintro ⟨hdistinct, hlisted, htext⟩
    exact hlater p (List.mem_reverse.1 hp) ⟨hdistinct, hlisted⟩ htext

/-- Every text stands for one member, or for none. -/
theorem exists_picks (flags : Bool) (items : List (String × EnumValue)) (strict : Bool)
    (text : String) : ∃ choice, Picks flags items strict text choice := by
  by_cases hname : ∃ value, (text, value) ∈ items
  · obtain ⟨value, hmem⟩ := hname
    obtain ⟨m, hm, hsame⟩ := exists_distinct hmem
    exact ⟨_, .named ⟨hm, value, hmem, hsame⟩⟩
  · rw [not_exists] at hname
    by_cases hprinted : strict = false ∧ ∃ m, Printed flags items m text
    · obtain ⟨hlax, m, hm⟩ := hprinted
      exact ⟨_, .printed hname hlax hm⟩
    · refine ⟨_, .nothing hname ?_⟩
      cases strict with
      | true => exact .inl rfl
      | false => exact .inr fun m hm => hprinted ⟨rfl, m, hm⟩

end MemberTable

namespace Enumeration

open MemberTable (Distinct Canonical Names Printed Picks byName?_of_names byName?_eq_none
  byValue?_eq_some_iff mem_members_iff exists_picks)

variable {items : List (String × EnumValue)} {text : String} {flags strict : Bool} {e : Enumeration}
  {choice : Option (String × EnumValue)} {target : Descriptor} {ref : ClassRef}

/-! ## Which items make an enumeration -/

/-- An enumeration has the members that its items make. -/
theorem toMemberTable_of_ofItems (h : ofItems flags items = .ok e) :
    e.toMemberTable = .ofItems flags items := by
  unfold ofItems at h
  split at h <;> cases h
  rfl

/-- **Items make no enumeration exactly if a listed member has a number too long to be printed.** -/
theorem ofItems_eq_error_iff (hnodup : (items.map (·.1)).Nodup) {error : Error} :
    ofItems flags items = .error error ↔ error = .fault .longNumber ∧
      ∃ m n, Canonical flags items m ∧ m.2 = .int n ∧ tenTo maxDigits ≤ n.natAbs := by
  have hlong : (∃ m n, Canonical flags items m ∧ m.2 = .int n ∧ tenTo maxDigits ≤ n.natAbs) ↔
      ¬ ∀ m ∈ (MemberTable.ofItems flags items).members, m.2.isPrintable = true := by
    simp only [mem_members_iff hnodup, EnumValue.isPrintable_iff]
    push Not
    exact exists_congr fun m => by simp only [exists_and_left, ← Nat.not_lt]
  rw [hlong]
  unfold ofItems
  split
  · next h => exact iff_of_false (by rintro ⟨⟩) fun hno => hno.2 h
  · next h =>
    constructor
    · rintro ⟨⟩
      exact ⟨rfl, h⟩
    · rintro ⟨rfl, -⟩
      rfl

/-! ## Conversion -/

/-- **The converter reads the member that a text stands for.** -/
theorem parse_of_picks (hnodup : (items.map (·.1)).Nodup) (he : ofItems flags items = .ok e)
    (h : Picks flags items strict text choice) :
    (e.converter target ref strict).parse text =
      choice.elim (.error (.fault (.unknownMember text ref.name e.names)))
        fun m => .ok (.member ref m.1 m.2) := by
  have htable := toMemberTable_of_ofItems he
  have hfound : (if strict then e.byName? text else e.byName? text <|> e.byValue? text) =
      choice := by
    rw [htable]
    cases h with
    | named h =>
      rw [byName?_of_names hnodup h]
      cases strict <;> rfl
    | printed hname hlax h =>
      rw [byName?_eq_none hnodup hname, (byValue?_eq_some_iff hnodup).2 h, hlax]
      rfl
    | nothing hname hprinted =>
      rw [byName?_eq_none hnodup hname]
      rcases hprinted with rfl | hprinted
      · rfl
      · have hnone : (MemberTable.ofItems flags items).byValue? text = none := by
          rw [Option.eq_none_iff_forall_ne_some]
          exact fun m hm => hprinted m ((byValue?_eq_some_iff hnodup).1 hm)
        rw [hnone]
        cases strict <;> rfl
  simp only [converter, hfound]
  cases choice <;> rfl

namespace Sample

/-- Sizes. `LARGE` has the name of another member for its value, `TRUE` is another name of `ONE`,
and the values of `ONE` and `TEXT` are printed alike. -/
def sizes : List (String × EnumValue) :=
  [("LARGE", .text "ONE"), ("ONE", .int 1), ("TRUE", .bool true), ("TEXT", .text "1"),
    ("BELOW", .int (-12)), ("OFF", .bool false), ("UNKNOWN", .null)]

/-- Rights, which are flags: `ALL` combines the other two. -/
def rights : List (String × EnumValue) := [("READ", .int 1), ("WRITE", .int 2), ("ALL", .int 3)]

end Sample

open ApiShape.Sample Enumeration.Sample

/-- Combined flags are not listed, but are found by name. -/
example : (MemberTable.ofItems true rights).names = ["READ", "WRITE"] ∧
    (MemberTable.ofItems true rights).byName? "ALL" = some ("ALL", .int 3) ∧
    (MemberTable.ofItems true rights).byValue? "3" = none := by decide

end Enumeration

end ApiShape
