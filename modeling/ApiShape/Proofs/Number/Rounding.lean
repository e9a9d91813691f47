import ApiShape.Number.Double
import ApiShape.Proofs.Number.Digits
import Mathlib.Data.Nat.Log

/-!
# Rounding to a double

A finite number is kept in one form only (`Double.Canonical`): 53 digits of the significand, or
fewer with the smallest exponent. What comes of rounding has that form
(`Double.rounded_ofScientific`), and a number in that form is the one nearest to itself
(`Double.ofUnits_self`), in whatever units it is counted.

A decimal is rounded as a quotient of units (`Double.ofScientific_eq`). So a zero at the end of its
coefficient stands for a step of its exponent, and:

* **`Double.ofScientific_exactCoefficient`** — the exact decimal of a number reads back as the
  number.
-/

namespace ApiShape.Number

variable {negative : Bool} {n d k m e q c : Nat}

/-! ## Rounding a quotient -/

theorem twoTo_add (m n : Nat) : twoTo (m + n) = twoTo m * twoTo n := Nat.pow_add 2 m n

theorem twoTo_le_twoTo (h : m ≤ n) : twoTo m ≤ twoTo n := Nat.pow_le_pow_right (by decide) h

theorem tenTo_eq (n : Nat) : tenTo n = Nat.pow 5 n * twoTo n := Nat.mul_pow 5 2 n

/-- A common factor does not change how a quotient is rounded. -/
theorem divHalfEven_mul_right (n d : Nat) (hk : 0 < k) :
    divHalfEven (n * k) (d * k) = divHalfEven n d := by
  have hrest : 2 * (n % d * k) = 2 * (n % d) * k := (Nat.mul_assoc ..).symm
  unfold divHalfEven
  simp only [Nat.mul_div_mul_right n d hk, Nat.mul_mod_mul_right, hrest,
    Nat.mul_lt_mul_right hk]

/-- A whole quotient is not rounded. -/
theorem divHalfEven_mul_self (q : Nat) (hd : 0 < d) : divHalfEven (q * d) d = q := by
  simp [divHalfEven, Nat.mul_div_cancel q hd, hd]

/-- A quotient is rounded to one of its neighbours. -/
theorem divHalfEven_bounds (n d : Nat) :
    n / d ≤ divHalfEven n d ∧ divHalfEven n d ≤ n / d + 1 := by
  unfold divHalfEven
  dsimp only
  split
  · omega
  · split
    · omega
    · split <;> omega

namespace Double

/-! ## The form in which finite numbers are kept -/

/-- The significand has at most 53 digits, and all of them unless the exponent is the smallest. -/
structure Canonical (m e : Nat) : Prop where
  lt : m < twoTo 53
  full : e = 0 ∨ twoTo 52 ≤ m
  le : e ≤ maxExponent

/-- A number as it comes of rounding. -/
def Rounded : Double → Prop
  | nan | infinite _ => True
  | finite _ m e => Canonical m e

/-- The exponent that leaves 53 digits of a whole number, if it has more. -/
theorem shifted_bounds (q : Nat) : q / twoTo (q.log2 + 1 - 53) < twoTo 53 ∧
    (q.log2 + 1 - 53 = 0 ∨ twoTo 52 ≤ q / twoTo (q.log2 + 1 - 53)) := by
  constructor
  · rw [Nat.div_lt_iff_lt_mul (twoTo_pos _), ← twoTo_add]
    calc q < twoTo (q.log2 + 1) := Nat.lt_log2_self
      _ ≤ twoTo (53 + (q.log2 + 1 - 53)) := twoTo_le_twoTo (by omega)
  · by_cases hshort : q.log2 + 1 - 53 = 0
    · exact .inl hshort
    · right
      have hq : q ≠ 0 := by
        rintro rfl
        simp at hshort
      rw [Nat.le_div_iff_mul_le (twoTo_pos _), ← twoTo_add]
      calc twoTo (52 + (q.log2 + 1 - 53)) = twoTo q.log2 := by congr 1; omega
        _ ≤ q := Nat.log2_self_le hq

/-- The exponent of a number in that form is the one that is left over from its units. -/
theorem Canonical.exponent_eq (h : Canonical m e) : (m * twoTo e).log2 + 1 - 53 = e := by
  have hlt := h.lt
  rcases h.full with rfl | hfull
  · have hunit : m * twoTo 0 = m := Nat.mul_one m
    rw [hunit]
    by_cases hm : m = 0
    · simp [hm]
    · have := (Nat.log2_lt hm).2 hlt
      omega
  · have hpos : m * twoTo e ≠ 0 :=
      Nat.mul_ne_zero (Nat.ne_of_gt (Nat.lt_of_lt_of_le (twoTo_pos 52) hfull))
        (Nat.ne_of_gt (twoTo_pos e))
    have hlog : (m * twoTo e).log2 = 52 + e := by
      rw [Nat.log2_eq_iff hpos]
      constructor
      · calc twoTo (52 + e) = twoTo 52 * twoTo e := twoTo_add 52 e
          _ ≤ m * twoTo e := Nat.mul_le_mul_right _ hfull
      · calc m * twoTo e < twoTo 53 * twoTo e := Nat.mul_lt_mul_of_pos_right hlt (twoTo_pos e)
          _ = twoTo (52 + e + 1) := by rw [← twoTo_add]; congr 1; omega
    omega

/-! ## Rounding to a double -/

/-- **What comes of rounding is in canonical form.** -/
theorem rounded_ofUnits (negative : Bool) (n d : Nat) : (ofUnits negative n d).Rounded := by
  have hbounds := divHalfEven_bounds n (d * twoTo ((n / d).log2 + 1 - 53))
  rw [← Nat.div_div_eq_div_mul] at hbounds
  obtain ⟨hlt, hfull⟩ := shifted_bounds (n / d)
  unfold ofUnits
  dsimp only
  generalize divHalfEven n (d * twoTo ((n / d).log2 + 1 - 53)) = significand at *
  generalize (n / d).log2 + 1 - 53 = exponent at *
  split
  · split
    · trivial
    · next hle =>
      have hlt : twoTo 52 < twoTo 53 := by decide
      exact ⟨hlt, .inr (Nat.le_refl _), Nat.le_of_not_lt hle⟩
  · next hcarry =>
    split
    · trivial
    · next hle => exact ⟨by omega, hfull.imp_right fun h => h.trans hbounds.1, Nat.le_of_not_lt hle⟩

/-- A common factor of both sides of a quotient does not change the number. -/
theorem ofUnits_mul_right (negative : Bool) (n d : Nat) (hk : 0 < k) :
    ofUnits negative (n * k) (d * k) = ofUnits negative n d := by
  have hscaled (shift : Nat) : divHalfEven (n * k) (d * k * twoTo shift) =
      divHalfEven n (d * twoTo shift) := by
    rw [Nat.mul_right_comm]
    exact divHalfEven_mul_right n _ hk
  simp only [ofUnits, Nat.mul_div_mul_right n d hk, hscaled]

/-- **A number in canonical form is the one nearest to itself.** -/
theorem ofUnits_self (h : Canonical m e) (hd : 0 < d) (negative : Bool) :
    ofUnits negative (m * twoTo e * d) d = finite negative m e := by
  have hexact : divHalfEven (m * twoTo e * d) (d * twoTo e) = m := by
    rw [Nat.mul_assoc, Nat.mul_comm (twoTo e)]
    exact divHalfEven_mul_self m (Nat.mul_pos hd (twoTo_pos e))
  have hcarry : m ≠ twoTo 53 := Nat.ne_of_lt h.lt
  simp only [ofUnits, Nat.mul_div_cancel _ hd, h.exponent_eq, hexact, if_neg hcarry,
    if_neg (Nat.not_lt_of_le h.le)]

/-- The sign is kept apart from the rounding. -/
theorem ofUnits_sign (h : ofUnits false n d = finite false m e) :
    ofUnits negative n d = finite negative m e := by
  unfold ofUnits at h ⊢
  dsimp only at h ⊢
  generalize (if divHalfEven n (d * twoTo ((n / d).log2 + 1 - 53)) = twoTo 53 then
    (twoTo 52, (n / d).log2 + 1 - 53 + 1)
    else (divHalfEven n (d * twoTo ((n / d).log2 + 1 - 53)), (n / d).log2 + 1 - 53)) = rounded at *
  split at h
  · cases h
  · next hle =>
    cases h
    rw [if_neg hle]

/-! ## Rounding a decimal -/

/-- A zero at the end is one more digit. -/
theorem digitCount_mul_ten (hc : c ≠ 0) : digitCount (c * 10) = digitCount c + 1 := by
  rw [digitCount, digits, Nat.toDigits_of_base_le (by decide) (by omega), List.length_append,
    Nat.mul_div_cancel c (by decide)]
  rfl

/-- Within the range of the exponents a decimal is rounded as a quotient of units. -/
theorem ofScientific_eq {x : Int} (hc : c ≠ 0) (hhigh : x + digitCount c ≤ 310)
    (hlow : -330 ≤ x + digitCount c) (negative : Bool) :
    ofScientific negative c x =
      ofUnits negative (c * tenTo x.toNat * twoTo 1074) (tenTo (-x).toNat) := by
  rw [ofScientific, if_neg hc]
  dsimp only
  rw [if_neg (by omega), if_neg (by omega)]
  split
  · next hx =>
    have hden : (-x).toNat = 0 := by omega
    rw [hden]
    rfl
  · next hx =>
    have hnum : x.toNat = 0 := by omega
    rw [hnum]
    simp [tenTo]

/-- Beyond that range a decimal is infinite or zero. -/
theorem ofScientific_of_out_of_range {x : Int} (hc : c ≠ 0)
    (hrange : ¬ (x + digitCount c ≤ 310 ∧ -330 ≤ x + digitCount c)) (negative : Bool) :
    ofScientific negative c x =
      if 310 < x + digitCount c then infinite negative else finite negative 0 0 := by
  rw [ofScientific, if_neg hc]
  dsimp only
  by_cases hhigh : 310 < x + digitCount c
  · rw [if_pos hhigh, if_pos hhigh]
  · have hlow : x + digitCount c < -330 := by omega
    rw [if_neg hhigh, if_neg hhigh, if_pos hlow]

/-- **A decimal is zero, infinite or rounded as a quotient of units**, whichever sign it has. -/
theorem ofScientific_cases (c : Nat) (x : Int) :
    (∀ negative, ofScientific negative c x = finite negative 0 0) ∨
      (∀ negative, ofScientific negative c x = infinite negative) ∨
      ∃ n d, ∀ negative, ofScientific negative c x = ofUnits negative n d := by
  by_cases hc : c = 0
  · subst hc
    exact .inl fun _ => rfl
  · by_cases hrange : x + digitCount c ≤ 310 ∧ -330 ≤ x + digitCount c
    · exact .inr (.inr ⟨_, _, ofScientific_eq hc hrange.1 hrange.2⟩)
    · have hout := ofScientific_of_out_of_range hc hrange
      by_cases hhigh : 310 < x + digitCount c
      · simp only [if_pos hhigh] at hout
        exact .inr (.inl hout)
      · simp only [if_neg hhigh] at hout
        exact .inl hout

/-- What is read is a double. -/
theorem rounded_ofScientific (negative : Bool) (c : Nat) (x : Int) :
    (ofScientific negative c x).Rounded := by
  rcases ofScientific_cases c x with hzero | hinfinite | ⟨n, d, hunits⟩
  · rw [hzero]
    exact ⟨twoTo_pos 53, .inl rfl, Nat.zero_le _⟩
  · rw [hinfinite]
    trivial
  · rw [hunits]
    exact rounded_ofUnits negative n d

/-- A zero may be moved from the coefficient to the exponent. -/
theorem ofScientific_mul_ten (negative : Bool) (c : Nat) (x : Int) :
    ofScientific negative (c * 10) x = ofScientific negative c (x + 1) := by
  -- zero is the same under any exponent
  by_cases hc : c = 0
  · subst hc
    rfl
  · have hc' : c * 10 ≠ 0 := Nat.mul_ne_zero hc (by decide)
    have hcount : x + digitCount (c * 10) = x + 1 + digitCount c := by
      rw [digitCount_mul_ten hc]
      omega
    by_cases hrange : x + 1 + digitCount c ≤ 310 ∧ -330 ≤ x + 1 + digitCount c
    · rw [ofScientific_eq hc' (hcount ▸ hrange.1) (hcount ▸ hrange.2),
        ofScientific_eq hc hrange.1 hrange.2]
      -- the factor ten is in the numerator, or cancels against the denominator
      by_cases hx : 0 ≤ x
      · have hnum : (x + 1).toNat = x.toNat + 1 := by omega
        have hden : (-x).toNat = (-(x + 1)).toNat := by omega
        rw [hnum, hden, tenTo_succ, Nat.mul_assoc c, Nat.mul_comm 10]
      · have hnum : x.toNat = (x + 1).toNat := by omega
        have hden : (-x).toNat = (-(x + 1)).toNat + 1 := by omega
        rw [hnum, hden, tenTo_succ, Nat.mul_right_comm c 10, Nat.mul_right_comm _ 10]
        exact ofUnits_mul_right negative _ _ (by decide)
    · -- out of range, both are too large or both too small
      rw [ofScientific_of_out_of_range hc' (hcount ▸ hrange), hcount,
        ofScientific_of_out_of_range hc hrange]

/-- **Any number of zeros may be moved from the coefficient to the exponent.** -/
theorem ofScientific_mul_tenTo (negative : Bool) (c zeros : Nat) (x : Int) :
    ofScientific negative (c * tenTo zeros) x = ofScientific negative c (x + zeros) := by
  induction zeros generalizing x with
  | zero =>
    have hone : c * tenTo 0 = c := Nat.mul_one c
    rw [hone, Int.natCast_zero, Int.add_zero]
  | succ zeros ih =>
    rw [tenTo_succ, ← Nat.mul_assoc, ofScientific_mul_ten, ih]
    congr 1
    omega

/-- The sign does not matter for rounding. -/
theorem ofScientific_sign {x : Int} (h : ofScientific false c x = finite false m e) :
    ofScientific negative c x = finite negative m e := by
  rcases ofScientific_cases c x with hzero | hinfinite | ⟨n, d, hunits⟩
  · rw [hzero] at h ⊢
    cases h
    rfl
  · rw [hinfinite] at h
    cases h
  · rw [hunits] at h ⊢
    exact ofUnits_sign h

/-! ## The exact decimal -/

/-- The exact coefficient has from 744 to 1384 digits. -/
theorem Canonical.exactCoefficient_bounds (h : Canonical m e) (hm : m ≠ 0) :
    tenTo 743 ≤ exactCoefficient m e ∧ exactCoefficient m e < tenTo 1384 := by
  have hlow : tenTo 743 ≤ Nat.pow 5 1074 := by decide +kernel
  have hhigh : twoTo 2098 * Nat.pow 5 1074 ≤ tenTo 1384 := by decide +kernel
  have hunit : 0 < m * twoTo e := Nat.mul_pos (Nat.pos_of_ne_zero hm) (twoTo_pos e)
  have hunits : m * twoTo e < twoTo 2098 := calc
    m * twoTo e < twoTo 53 * twoTo e := Nat.mul_lt_mul_of_pos_right h.lt (twoTo_pos e)
    _ = twoTo (53 + e) := (twoTo_add 53 e).symm
    _ ≤ twoTo 2098 := twoTo_le_twoTo (Nat.add_le_add_left h.le 53)
  have hfive : 0 < Nat.pow 5 1074 := Nat.lt_of_lt_of_le (tenTo_pos 743) hlow
  unfold exactCoefficient
  generalize Nat.pow 5 1074 = five at *
  constructor
  · exact hlow.trans (Nat.le_mul_of_pos_left five hunit)
  · exact (Nat.mul_lt_mul_of_pos_right hunits hfive).trans_le hhigh

/-- A number in units of a power of ten is the one nearest to itself. -/
theorem ofUnits_scaled (h : Canonical m e) (places : Nat) :
    ofUnits false (m * twoTo e * Nat.pow 5 places * twoTo places) (tenTo places) =
      finite false m e := by
  rw [Nat.mul_assoc, ← tenTo_eq]
  exact ofUnits_self h (tenTo_pos places) false

/-- **The exact decimal of a number reads back as the number.** -/
theorem ofScientific_exactCoefficient (h : Canonical m e) (hm : m ≠ 0) :
    ofScientific false (exactCoefficient m e) (-1074) = finite false m e := by
  obtain ⟨hlow, hhigh⟩ := h.exactCoefficient_bounds hm
  have hne : exactCoefficient m e ≠ 0 := Nat.ne_of_gt (Nat.lt_of_lt_of_le (tenTo_pos 743) hlow)
  have hcount : digitCount (exactCoefficient m e) ≤ 1384 := (digitCount_le_iff (by decide)).2 hhigh
  have hcount' : ¬ digitCount (exactCoefficient m e) ≤ 743 :=
    fun hle => Nat.not_lt_of_le hlow ((digitCount_le_iff (by decide)).1 hle)
  have hplaces : (-1074 : Int).toNat = 0 ∧ (- -1074 : Int).toNat = 1074 := ⟨rfl, rfl⟩
  have hone : exactCoefficient m e * tenTo 0 = exactCoefficient m e := Nat.mul_one _
  rw [ofScientific_eq hne (by omega) (by omega), hplaces.1, hplaces.2, hone,
    exactCoefficient]
  generalize 1074 = places
  exact ofUnits_scaled h places

end Double

end ApiShape.Number
