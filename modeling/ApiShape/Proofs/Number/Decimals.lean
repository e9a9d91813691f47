import ApiShape.Converter.Leaf
import ApiShape.Proofs.Number.Texts
import Mathlib.Algebra.Field.Rat
import Mathlib.Tactic.FieldSimp
import Mathlib.Tactic.Ring

/-!
# Decimals are kept exactly

A decimal is read from exactly the texts that spell it (`Decimal.read_eq_ok_iff`). It is the number
that the text denotes as a rational number (`DecimalText.toRat_value`), with the sign of the text,
also where the number is zero, and with an exponent that counts every digit behind the point,
trailing zeros included.

The written form of a decimal, positional or scientific, is such a text
(`Decimal.writtenAs_toText`): a point is put between the digits without a change to what they denote
(`exists_withPoint`), and the exponent makes up for it.

* **`decimal_kept`** — what is read is what the text denotes, and it is read back from its written
  form with the same sign, coefficient and exponent.
-/

namespace ApiShape.Number

variable {s ds : List Char} {negative : Bool}

/-! ## What decimals denote -/

/-- The number with that sign. -/
def signedRat (negative : Bool) (q : ℚ) : ℚ := if negative then -q else q

/-- The rational number that a decimal is. -/
def Decimal.toRat (d : Decimal) : ℚ := signedRat d.negative (d.coefficient * 10 ^ d.exponent)

/-- The rational number that a decimal text denotes: the digits before the point, those behind it as
a fraction, and the power of ten. -/
def DecimalText.toRat (t : DecimalText) : ℚ :=
  signedRat t.negative
    ((ofDigits t.whole + ofDigits t.fraction / 10 ^ t.fraction.length) * 10 ^ t.exponent)

theorem cast_tenTo (n : Nat) : (tenTo n : ℚ) = 10 ^ n := by
  show ((10 ^ n : ℕ) : ℚ) = 10 ^ n
  push_cast
  rfl

/-- **The decimal made from a text is the number that it denotes.** -/
theorem DecimalText.toRat_value (t : DecimalText) : t.value.toRat = t.toRat := by
  have hten : (10 : ℚ) ≠ 0 := by norm_num
  have hdigits : ((ofDigits (t.whole ++ t.fraction) : ℕ) : ℚ) =
      10 ^ t.fraction.length * ofDigits t.whole + ofDigits t.fraction := by
    rw [ofDigits_append]
    push_cast
    rw [cast_tenTo]
  show signedRat t.negative _ = signedRat t.negative _
  congr 1
  show (ofDigits (t.whole ++ t.fraction) : ℚ) * 10 ^ (t.exponent - t.fraction.length) = _
  rw [hdigits, zpow_sub₀ hten, zpow_natCast]
  field_simp

/-! ## Reading -/

/-- A text spells one decimal at most. -/
theorem DecimalText.WrittenAs.unique {t u : DecimalText} (ht : t.WrittenAs s) (hu : u.WrittenAs s) :
    t = u := by
  have hspan := ht.span? ends_nil
  rw [hu.span? ends_nil] at hspan
  cases hspan
  rfl

/-- **A decimal is read from the texts that spell it**, if its exponent is in range. -/
theorem Decimal.read_eq_ok_iff {raw : String} {d : Decimal} : Decimal.read raw = .ok d ↔
    (∃ t : DecimalText, t.WrittenAs raw.toList ∧ t.value = d) ∧ d.inRange = true := by
  unfold Decimal.read
  constructor
  · intro h
    split at h
    · next t hspan =>
      dsimp only at h
      split at h
      · next hrange =>
        cases h
        obtain ⟨text, hwritten, htext⟩ := DecimalText.exists_writtenAs hspan
        rw [List.append_nil] at htext
        exact ⟨⟨t, htext ▸ hwritten, rfl⟩, hrange⟩
      · cases h
    · cases h
  · rintro ⟨⟨t, hwritten, rfl⟩, hrange⟩
    have hspan := hwritten.span? ends_nil
    rw [List.append_nil] at hspan
    rw [hspan]
    dsimp only
    rw [if_pos hrange]

/-! ## Writing -/

/-- **A point is put between digits** without a change to the number that they denote, zeros in
front of them if there are too few. -/
theorem exists_withPoint (places : Nat) (hne : ds ≠ []) (h : ds.all isDigit = true) :
    ∃ whole fraction, MantissaText whole fraction (Decimal.withPoint places ds) ∧
      (whole ++ fraction).all isDigit = true ∧ whole ++ fraction ≠ [] ∧
      fraction.length = places ∧ ofDigits (whole ++ fraction) = ofDigits ds := by
  unfold Decimal.withPoint
  split
  · next hplaces =>
    subst hplaces
    have hsame : ds ++ [] = ds := List.append_nil ds
    exact ⟨ds, [], .whole ds, by rwa [hsame], by rwa [hsame], rfl, by rw [hsame]⟩
  · -- with enough zeros in front, the point falls between digits that are there
    dsimp only
    generalize hes : List.replicate (places + 1 - ds.length) '0' ++ ds = es
    have hlength : es.length = places + 1 - ds.length + ds.length := by
      rw [← hes, List.length_append, List.length_replicate]
    have hall : es.all isDigit = true := hes ▸ all_isDigit_zeros_append _ h
    have hvalue : ofDigits es = ofDigits ds := by
      rw [← hes, ofDigits_append, ofDigits_replicate_zero, Nat.mul_zero, Nat.zero_add]
    have hjoin := List.take_append_drop (es.length - places) es
    refine ⟨_, _, .point _ _, by rwa [hjoin], ?_, ?_, by rwa [hjoin]⟩
    · rw [hjoin, ← hes]
      exact List.append_ne_nil_of_right_ne_nil _ hne
    · rw [List.length_drop]
      omega

/-- The text of an exponent with its sign, a plus included. -/
theorem exponentText_signed {mark : Char} (hmark : mark = 'e' ∨ mark = 'E') (hne : ds ≠ [])
    (h : ds.all isDigit = true) {n : Int} (hn : ofDigits ds = n.natAbs) :
    ExponentText n (mark :: (if n < 0 then '-' else '+') :: ds) := by
  have hsign : SignText (decide (n < 0)) [if n < 0 then '-' else '+'] := by
    by_cases hnegative : n < 0
    · simpa only [hnegative, decide_true, if_true] using SignText.minus
    · simpa only [hnegative, decide_false, if_false] using SignText.plus
  have htext := ExponentText.marked hmark hsign hne h
  rwa [hn, signed_natAbs] at htext

theorem exponentText_signedText (n : Int) : ExponentText n ('E' :: Decimal.signedText n) :=
  exponentText_signed (.inr rfl) Nat.toDigits_ne_nil (all_isDigit_digits n.natAbs)
    (ofDigits_digits n.natAbs)

/-- The texts of a decimal from the texts of its pieces. -/
theorem DecimalText.WrittenAs.signed {t : DecimalText} {mantissa exponent : List Char}
    (hmantissa : MantissaText t.whole t.fraction mantissa)
    (hdigits : (t.whole ++ t.fraction).all isDigit = true) (hne : t.whole ++ t.fraction ≠ [])
    (hexponent : ExponentText t.exponent exponent) :
    t.WrittenAs (if t.negative then '-' :: (mantissa ++ exponent) else mantissa ++ exponent) := by
  cases hnegative : t.negative with
  | true =>
    have hsign : SignText t.negative ['-'] := by
      rw [hnegative]
      exact SignText.minus
    exact .mk hsign hmantissa hdigits hne hexponent
  | false =>
    have hsign : SignText t.negative [] := by
      rw [hnegative]
      exact SignText.none
    exact .mk hsign hmantissa hdigits hne hexponent

/-- **The written form of a decimal spells it.** -/
theorem Decimal.writtenAs_toText (d : Decimal) :
    ∃ t : DecimalText, t.WrittenAs d.toText ∧ t.value = d := by
  have hne : digits d.coefficient ≠ [] := Nat.toDigits_ne_nil
  have hall := all_isDigit_digits d.coefficient
  have hvalue := ofDigits_digits d.coefficient
  by_cases hplain : (d.exponent ≤ 0 && -6 ≤ d.adjusted) = true
  · -- the positional form has no exponent: all of it is places behind the point
    obtain ⟨hexponent, -⟩ : d.exponent ≤ 0 ∧ -6 ≤ d.adjusted := by simpa using hplain
    obtain ⟨whole, fraction, hmantissa, hdigits, hsome, hlength, hof⟩ :=
      exists_withPoint (-d.exponent).toNat hne hall
    have hwritten := DecimalText.WrittenAs.signed (t := ⟨d.negative, whole, fraction, 0⟩)
      hmantissa hdigits hsome .none
    have hplaces : (0 : Int) - fraction.length = d.exponent := by omega
    refine ⟨⟨d.negative, whole, fraction, 0⟩, ?_, ?_⟩
    · simpa only [Decimal.toText, hplain, if_true, List.append_nil] using hwritten
    · rw [DecimalText.value, hof, hvalue, hplaces]
  · -- the scientific form has one digit before the point, and its exponent is that of this digit
    obtain ⟨whole, fraction, hmantissa, hdigits, hsome, hlength, hof⟩ :=
      exists_withPoint ((digits d.coefficient).length - 1) hne hall
    have hwritten := DecimalText.WrittenAs.signed (t := ⟨d.negative, whole, fraction, d.adjusted⟩)
      hmantissa hdigits hsome (exponentText_signedText d.adjusted)
    have hplaces : d.adjusted - fraction.length = d.exponent := by
      have hcount : 0 < (digits d.coefficient).length := List.length_pos_iff.2 hne
      rw [Decimal.adjusted, digitCount]
      omega
    refine ⟨⟨d.negative, whole, fraction, d.adjusted⟩, ?_, ?_⟩
    · simpa only [Decimal.toText, hplain, Bool.false_eq_true, if_false] using hwritten
    · rw [DecimalText.value, hof, hvalue, hplaces]

/-- **Decimals are kept.** What is read from a text is the number that the text denotes, and no
other pieces spell that text. Its sign is that of the text, its coefficient has all the digits of
the text, and its exponent counts those behind the point, so that the sign of zero and trailing
zeros are kept. Reading the written form gives the same sign, coefficient and exponent again. -/
theorem decimal_kept {raw : String} {d : Decimal} (h : Decimal.read raw = .ok d) :
    (∃ t : DecimalText, (∀ u : DecimalText, u.WrittenAs raw.toList ↔ u = t) ∧
      d.toRat = t.toRat ∧ d.negative = t.negative ∧
      d.coefficient = ofDigits (t.whole ++ t.fraction) ∧
      d.exponent = t.exponent - t.fraction.length) ∧
    Decimal.read (String.ofList d.toText) = .ok d := by
  obtain ⟨⟨t, hwritten, rfl⟩, hrange⟩ := Decimal.read_eq_ok_iff.1 h
  constructor
  · refine ⟨t, fun u => ⟨fun hu => hu.unique hwritten, ?_⟩, t.toRat_value, rfl, rfl, rfl⟩
    rintro rfl
    exact hwritten
  · rw [Decimal.read_eq_ok_iff, String.toList_ofList]
    exact ⟨t.value.writtenAs_toText, hrange⟩

/-- A leading zero goes, a trailing one stays, and the written form changes to the scientific
one. -/
theorem decimal_kept_small :
    Decimal.read "-00.120e-6" = .ok ⟨true, 120, -9⟩ ∧
      Decimal.read "-1.20E-7" = .ok ⟨true, 120, -9⟩ := by
  have hread : Decimal.read "-00.120e-6" = .ok ⟨true, 120, -9⟩ := by rfl
  have htext : (⟨true, 120, -9⟩ : Decimal).toText = "-1.20E-7".toList := by decide
  have hback := (decimal_kept hread).2
  rw [htext, String.ofList_toList] at hback
  exact ⟨hread, hback⟩

end ApiShape.Number
