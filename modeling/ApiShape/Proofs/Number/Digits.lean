import ApiShape.Number.Integer

/-!
# Digits of a fixed width

A number and a fixed count of digits determine each other, as long as the number fits:

* **`ofDigits_padded`** — the digits that a number is written in denote it, padded or not;
* **`padded_ofDigits`** — digits are what their number is written in, padded to as many.

So a field of fixed width in a text can be stated by its number, without a look at its digits.
-/

namespace ApiShape.Number

/-- Digits are the ten characters from `0` to `9`. -/
theorem isDigit_iff (c : Char) : isDigit c = true ↔ 48 ≤ c.toNat ∧ c.toNat ≤ 57 := by
  have hrange : '0' ≤ c ∧ c ≤ '9' ↔ 48 ≤ c.toNat ∧ c.toNat ≤ 57 := Iff.rfl
  rw [← hrange, isDigit, Text.asciiDigit?]
  split
  · next h => exact iff_of_true rfl h
  · next h => exact iff_of_false (by simp) h

/-! ## The number that digits denote -/

theorem appendDigits_eq (acc : Nat) (ds : List Char) :
    appendDigits acc ds = Nat.ofDigitChars 10 ds acc := by
  rw [Nat.ofDigitChars_eq_foldl, appendDigits]
  congr 1
  funext n c
  rw [Nat.mul_comm]
  rfl

/-- Digits that are put behind others shift them by their count. -/
theorem ofDigits_append (ds es : List Char) :
    ofDigits (ds ++ es) = tenTo es.length * ofDigits ds + ofDigits es := by
  simp only [ofDigits, appendDigits_eq]
  rw [Nat.ofDigitChars_append, Nat.ofDigitChars_eq_ofDigitChars_zero]
  rfl

/-- A digit counts by the number of digits behind it. -/
theorem ofDigits_cons (c : Char) (ds : List Char) :
    ofDigits (c :: ds) = tenTo ds.length * (c.toNat - 48) + ofDigits ds := by
  rw [← List.singleton_append, ofDigits_append]
  simp [ofDigits, appendDigits]

theorem tenTo_pos (n : Nat) : 0 < tenTo n := Nat.pow_pos (by decide)

theorem twoTo_pos (n : Nat) : 0 < twoTo n := Nat.pow_pos (by decide)

theorem tenTo_succ (n : Nat) : tenTo (n + 1) = tenTo n * 10 := rfl

theorem tenTo_add (m n : Nat) : tenTo (m + n) = tenTo m * tenTo n := Nat.pow_add 10 m n

theorem ofDigits_replicate_zero (n : Nat) : ofDigits (List.replicate n '0') = 0 := by
  rw [ofDigits, appendDigits_eq, Nat.ofDigitChars_replicate_zero, Nat.mul_zero]

/-- Zeros at the end multiply by a power of ten. -/
theorem ofDigits_append_zeros (ds : List Char) (zeros : Nat) :
    ofDigits (ds ++ List.replicate zeros '0') = ofDigits ds * tenTo zeros := by
  rw [ofDigits_append, ofDigits_replicate_zero, List.length_replicate, Nat.add_zero, Nat.mul_comm]

/-- As many digits do not reach the power of ten. -/
theorem ofDigits_lt {ds : List Char} (h : ds.all isDigit = true) :
    ofDigits ds < tenTo ds.length := by
  induction ds with
  | nil => exact tenTo_pos 0
  | cons c ds ih =>
    obtain ⟨hc, hds⟩ : isDigit c = true ∧ ds.all isDigit = true := by simpa using h
    have hdigit := (isDigit_iff c).1 hc
    have hrest := ih hds
    have hlead : tenTo ds.length * (c.toNat - 48) ≤ tenTo ds.length * 9 :=
      Nat.mul_le_mul_left _ (by omega)
    rw [ofDigits_cons, List.length_cons, tenTo_succ]
    omega

theorem all_isDigit_drop {ds : List Char} (h : ds.all isDigit = true) (count : Nat) :
    (ds.drop count).all isDigit = true :=
  List.all_eq_true.2 fun c hc => List.all_eq_true.1 h c (List.mem_of_mem_drop hc)

/-- Leaving out the last digits divides by the power of ten of their count. -/
theorem ofDigits_take {ds : List Char} (h : ds.all isDigit = true) (count : Nat) :
    ofDigits (ds.take count) = ofDigits ds / tenTo (ds.length - count) := by
  have hlt := ofDigits_lt (all_isDigit_drop h count)
  have hsum := ofDigits_append (ds.take count) (ds.drop count)
  rw [List.take_append_drop] at hsum
  rw [List.length_drop] at hlt hsum
  rw [hsum, Nat.mul_add_div (tenTo_pos _), Nat.div_eq_of_lt hlt, Nat.add_zero]

/-- **As many digits that denote the same number are the same.** Induction on the digits: the first
one is the quotient by the power of ten that the others do not reach. -/
theorem eq_of_ofDigits_eq {ds es : List Char} (hds : ds.all isDigit = true)
    (hes : es.all isDigit = true) (hlength : ds.length = es.length)
    (h : ofDigits ds = ofDigits es) : ds = es := by
  induction ds generalizing es with
  | nil => exact (List.eq_nil_of_length_eq_zero hlength.symm).symm
  | cons c ds ih =>
    match es, hlength with
    | e :: es, hlength =>
      have hlength : ds.length = es.length := by simpa using hlength
      obtain ⟨hc, hds⟩ : isDigit c = true ∧ ds.all isDigit = true := by simpa using hds
      obtain ⟨he, hes⟩ : isDigit e = true ∧ es.all isDigit = true := by simpa using hes
      have hlt := ofDigits_lt hds
      have hlt' := ofDigits_lt hes
      rw [ofDigits_cons, ofDigits_cons, ← hlength] at h
      rw [← hlength] at hlt'
      -- the first digit is the quotient by the power of ten, the rest is the remainder
      have hfirst : c.toNat - 48 = e.toNat - 48 := by
        have hquotient := congrArg (· / tenTo ds.length) h
        simpa [Nat.mul_add_div (tenTo_pos _), Nat.div_eq_of_lt hlt, Nat.div_eq_of_lt hlt']
          using hquotient
      have hrest : ofDigits ds = ofDigits es := by
        rw [hfirst] at h
        exact Nat.add_left_cancel h
      have hchar : c = e := by
        have hcbounds := (isDigit_iff c).1 hc
        have hebounds := (isDigit_iff e).1 he
        exact Char.toNat_inj.1 (by omega)
      rw [hchar, ih hds hes hlength hrest]

/-! ## Padded numbers -/

/-- The digits of a number are read back. -/
theorem ofDigits_digits (n : Nat) : ofDigits (digits n) = n := by
  rw [ofDigits, appendDigits_eq]
  exact Nat.ofDigitChars_ten_toDigits

/-- **What a number is written in denotes it**, whatever it is padded to. -/
theorem ofDigits_padded (width n : Nat) : ofDigits (padded width n) = n := by
  rw [padded, ofDigits_append, ofDigits_replicate_zero, ofDigits_digits, Nat.mul_zero,
    Nat.zero_add]

theorem isDigit_of_mem_digits {n : Nat} {c : Char} (h : c ∈ digits n) : isDigit c = true := by
  have hdigit : c.isDigit = true := Nat.isDigit_of_mem_toDigits (by decide) (by decide) h
  rw [isDigit_iff]
  simpa [Char.isDigit, UInt32.le_iff_toNat_le] using hdigit

theorem all_isDigit_padded (width n : Nat) : (padded width n).all isDigit = true := by
  rw [List.all_eq_true]
  intro c hc
  rcases List.mem_append.1 hc with hzero | hdigit
  · obtain rfl := List.eq_of_mem_replicate hzero
    decide
  · exact isDigit_of_mem_digits hdigit

/-- A number that fits is padded to the width. -/
theorem length_padded {width n : Nat} (hwidth : 0 < width) (h : n < tenTo width) :
    (padded width n).length = width := by
  have hcount : (digits n).length ≤ width := (Nat.length_toDigits_le_iff (by decide) hwidth).2 h
  rw [padded, List.length_append, List.length_replicate, digitCount]
  omega

/-- **Digits are what their number is written in**, padded to as many. -/
theorem padded_ofDigits {ds : List Char} (hne : ds ≠ []) (h : ds.all isDigit = true) :
    padded ds.length (ofDigits ds) = ds := by
  have hlength : (padded ds.length (ofDigits ds)).length = ds.length :=
    length_padded (List.length_pos_iff.2 hne) (ofDigits_lt h)
  exact eq_of_ofDigits_eq (all_isDigit_padded _ _) h hlength (ofDigits_padded _ _)

/-! ## Numerals -/

/-- The digits are the shortest ones that denote the number. -/
structure Numeral (n : Nat) (ds : List Char) : Prop where
  nonempty : ds ≠ []
  digits : ds.all isDigit = true
  value : ofDigits ds = n
  shortest : ∀ es, es ≠ [] → es.all isDigit = true → ofDigits es = n → ds.length ≤ es.length

/-- No numeral of a number is shorter than its digits. -/
theorem digitCount_le_of_ofDigits {n : Nat} {ds : List Char} (hne : ds ≠ [])
    (h : ds.all isDigit = true) (hvalue : ofDigits ds = n) : digitCount n ≤ ds.length := by
  have hlength := congrArg List.length (padded_ofDigits hne h)
  rw [hvalue, padded, List.length_append, List.length_replicate] at hlength
  unfold digitCount at hlength ⊢
  omega

/-- A number is written in its numeral. -/
theorem numeral_iff {n : Nat} {ds : List Char} : Numeral n ds ↔ ds = digits n := by
  have hdigits : (digits n).all isDigit = true :=
    List.all_eq_true.2 fun _ hc => isDigit_of_mem_digits hc
  constructor
  · intro h
    have hle := h.shortest (digits n) Nat.toDigits_ne_nil hdigits (ofDigits_digits n)
    have hge : (digits n).length ≤ ds.length :=
      digitCount_le_of_ofDigits h.nonempty h.digits h.value
    exact eq_of_ofDigits_eq h.digits hdigits (Nat.le_antisymm hle hge)
      (h.value.trans (ofDigits_digits n).symm)
  · rintro rfl
    exact ⟨Nat.toDigits_ne_nil, hdigits, ofDigits_digits n,
      fun _ hne hes hvalue => digitCount_le_of_ofDigits hne hes hvalue⟩

/-- A number has at most so many digits if it is below the power of ten. -/
theorem digitCount_le_iff {n width : Nat} (hwidth : 0 < width) :
    digitCount n ≤ width ↔ n < tenTo width :=
  Nat.length_toDigits_le_iff (by decide) hwidth

/-! ## Signs -/

theorem natAbs_signed (negative : Bool) (n : Nat) : (signed negative n).natAbs = n := by
  cases negative with
  | true => exact Int.natAbs_neg n
  | false => rfl

/-- A number is its size under its sign. -/
theorem signed_natAbs (n : Int) : signed (decide (n < 0)) n.natAbs = n := by
  by_cases hnegative : n < 0
  · simp only [signed, hnegative, decide_true, if_true]
    omega
  · simp only [signed, hnegative, decide_false, Bool.false_eq_true, if_false]
    omega

end ApiShape.Number
