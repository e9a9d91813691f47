import ApiShape.Number.Decimal
import ApiShape.Proofs.Number.Digits
import Mathlib.Data.List.TakeDrop

/-!
# The texts of numbers

Which texts a number is written as, without a reader: a sign that may be left out (`SignText`), a
whole number with leading zeros (`IntegerText`), and a decimal with a point and an exponent that may
be left out (`DecimalText.WrittenAs`).

Readers cut a text from its head. For each piece there are two lemmas: what is cut off is a text of
the piece, and such a text is cut off whole if the text behind it cannot belong to it (`Ends`).

* **`integerText_iff`** — the whole numbers and the count of digits that a text stands for;
* **`DecimalText.WrittenAs.span?`**, **`DecimalText.exists_writtenAs`** — the texts of a decimal are
  what is cut off for it.
-/

namespace ApiShape.Number

variable {s rest ds sign : List Char} {negative : Bool}

/-! ## The texts -/

/-- A sign, which may be left out where it is a plus. -/
inductive SignText : (negative : Bool) → List Char → Prop
  | none : SignText false []
  | plus : SignText false ['+']
  | minus : SignText true ['-']

/-- The texts of a whole number in a count of digits: a sign, any number of leading zeros, and the
decimal digits of the number. -/
inductive IntegerText : (n : Int) → (count : Nat) → List Char → Prop
  | mk {negative : Bool} {sign : List Char} (hsign : SignText negative sign) (zeros n : Nat) :
      IntegerText (signed negative n) (zeros + digitCount n)
        (sign ++ (List.replicate zeros '0' ++ digits n))

/-- The digits before and behind a point. The point may be left out where no digits are behind
it. -/
inductive MantissaText : (whole fraction : List Char) → List Char → Prop
  | whole (whole : List Char) : MantissaText whole [] whole
  | point (whole fraction : List Char) : MantissaText whole fraction (whole ++ '.' :: fraction)

/-- An exponent of zero may be left out. -/
inductive ExponentText : Int → List Char → Prop
  | none : ExponentText 0 []
  | marked {mark : Char} {negative : Bool} {sign ds : List Char} (hmark : mark = 'e' ∨ mark = 'E')
      (hsign : SignText negative sign) (hne : ds ≠ []) (hdigits : ds.all isDigit = true) :
      ExponentText (signed negative (ofDigits ds)) (mark :: (sign ++ ds))

/-- The texts of a decimal, with at least one digit before or behind the point. -/
inductive DecimalText.WrittenAs (t : DecimalText) : List Char → Prop
  | mk {sign mantissa exponent : List Char} (hsign : SignText t.negative sign)
      (hmantissa : MantissaText t.whole t.fraction mantissa)
      (hdigits : (t.whole ++ t.fraction).all isDigit = true) (hne : t.whole ++ t.fraction ≠ [])
      (hexponent : ExponentText t.exponent exponent) :
      t.WrittenAs (sign ++ (mantissa ++ exponent))

/-! ## Signs -/

/-- The text does not start with a sign. -/
def Unsigned (s : List Char) : Prop := ∀ c ∈ s.head?, c ≠ '-' ∧ c ≠ '+'

/-- A text that starts with a digit has no sign. -/
theorem unsigned_of_isDigit (hne : ds ≠ []) (h : ds.all isDigit = true) :
    Unsigned (ds ++ rest) := by
  obtain ⟨c, ds, rfl⟩ := List.exists_cons_of_ne_nil hne
  have hc : isDigit c = true := List.all_eq_true.1 h c List.mem_cons_self
  rintro _ ⟨⟩
  constructor
  · rintro rfl
    exact absurd hc (by decide)
  · rintro rfl
    exact absurd hc (by decide)

/-- Without a sign a number is not negative. -/
theorem spanSign_of_unsigned (h : Unsigned s) : spanSign s = (false, s) := by
  unfold spanSign
  split
  · exact absurd rfl (h _ rfl).1
  · exact absurd rfl (h _ rfl).2
  · rfl

/-- A sign is cut off, whatever unsigned text follows. -/
theorem spanSign_append (h : SignText negative sign) (hrest : Unsigned rest) :
    spanSign (sign ++ rest) = (negative, rest) := by
  cases h with
  | none => exact spanSign_of_unsigned hrest
  | plus => rfl
  | minus => rfl

/-- What is cut off as a sign is one. -/
theorem exists_signText (s : List Char) :
    ∃ sign, SignText (spanSign s).1 sign ∧ s = sign ++ (spanSign s).2 := by
  unfold spanSign
  split
  · exact ⟨['-'], .minus, rfl⟩
  · exact ⟨['+'], .plus, rfl⟩
  · exact ⟨[], .none, rfl⟩

/-! ## Digits -/

/-- The text does not start with a digit. -/
def Digitless (s : List Char) : Prop := ∀ c ∈ s.head?, isDigit c = false

/-- Digits are cut off up to the first other character. -/
theorem spanDigits_append (h : ds.all isDigit = true) (hrest : Digitless rest) :
    spanDigits (ds ++ rest) = (ds, rest) := by
  have hds : ∀ c ∈ ds, isDigit c = true := List.all_eq_true.1 h
  have htake : (ds ++ rest).takeWhile isDigit = ds := by
    rw [List.takeWhile_append_of_pos hds]
    cases rest with
    | nil => simp
    | cons c rest => simp [hrest c rfl]
  have hdrop : (ds ++ rest).dropWhile isDigit = rest := by
    rw [List.dropWhile_append_of_pos hds]
    cases rest with
    | nil => rfl
    | cons c rest => simp [hrest c rfl]
  rw [spanDigits, List.span_eq_takeWhile_dropWhile, htake, hdrop]

/-- What is cut off as digits are digits. -/
theorem eq_of_spanDigits (h : spanDigits s = (ds, rest)) :
    s = ds ++ rest ∧ ds.all isDigit = true := by
  rw [spanDigits, List.span_eq_takeWhile_dropWhile] at h
  cases h
  exact ⟨List.takeWhile_append_dropWhile.symm, List.all_takeWhile⟩

theorem all_isDigit_digits (n : Nat) : (digits n).all isDigit = true :=
  List.all_eq_true.2 fun _ => isDigit_of_mem_digits

theorem all_isDigit_zeros (zeros : Nat) : (List.replicate zeros '0').all isDigit = true := by
  rw [List.all_eq_true]
  intro c hc
  obtain rfl := List.eq_of_mem_replicate hc
  decide

theorem all_isDigit_zeros_append (zeros : Nat) (h : ds.all isDigit = true) :
    (List.replicate zeros '0' ++ ds).all isDigit = true := by
  rw [List.all_append, all_isDigit_zeros, h]
  rfl

theorem all_isDigit_append_zeros (h : ds.all isDigit = true) (zeros : Nat) :
    (ds ++ List.replicate zeros '0').all isDigit = true := by
  rw [List.all_append, all_isDigit_zeros, h]
  rfl

/-! ## Whole numbers -/

/-- Digits are cut off with the sign before them if nothing else is there. -/
theorem signedDigits?_eq_some_iff : signedDigits? s = some (negative, ds) ↔
    ds ≠ [] ∧ ds.all isDigit = true ∧ ∃ sign, SignText negative sign ∧ s = sign ++ ds := by
  constructor
  · intro h
    obtain ⟨sign, hsign, hs⟩ := exists_signText s
    simp only [signedDigits?] at h
    split at h
    · next hdigits =>
      obtain ⟨hne, hall⟩ : (spanSign s).2 ≠ [] ∧ (spanSign s).2.all isDigit = true := by
        simpa using hdigits
      cases h
      exact ⟨hne, hall, sign, hsign, hs⟩
    · cases h
  · rintro ⟨hne, hall, sign, hsign, rfl⟩
    have hspan : spanSign (sign ++ ds) = (negative, ds) := by
      have hunsigned : Unsigned (ds ++ []) := unsigned_of_isDigit hne hall
      rw [List.append_nil] at hunsigned
      exact spanSign_append hsign hunsigned
    have hempty : ds.isEmpty = false := by simpa using hne
    simp only [signedDigits?, hspan, hempty, hall, Bool.not_false, Bool.and_self, if_true]

/-- A number that is padded to a width has no more digits than that. -/
theorem length_le_of_padded {n width : Nat} (h : (padded width n).length = width) :
    digitCount n ≤ width := by
  rw [padded, List.length_append, List.length_replicate, ← digitCount] at h
  omega

/-- **The whole numbers that a text stands for**, and the count of its digits. -/
theorem integerText_iff {n : Int} {count : Nat} : IntegerText n count s ↔
    ∃ negative ds, signedDigits? s = some (negative, ds) ∧ n = signed negative (ofDigits ds) ∧
      count = ds.length := by
  constructor
  · rintro @⟨negative, sign, hsign, zeros, n⟩
    have hne : List.replicate zeros '0' ++ digits n ≠ [] := by
      intro hnil
      exact Nat.toDigits_ne_nil (List.append_eq_nil_iff.1 hnil).2
    have hall := all_isDigit_zeros_append zeros (all_isDigit_digits n)
    refine ⟨negative, _, signedDigits?_eq_some_iff.2 ⟨hne, hall, sign, hsign, rfl⟩, ?_, ?_⟩
    · rw [ofDigits_append, ofDigits_replicate_zero, ofDigits_digits, Nat.mul_zero, Nat.zero_add]
    · rw [List.length_append, List.length_replicate, digitCount]
  · rintro ⟨negative, ds, hs, rfl, rfl⟩
    obtain ⟨hne, hall, sign, hsign, rfl⟩ := signedDigits?_eq_some_iff.1 hs
    have hpadded := padded_ofDigits hne hall
    have hcount : digitCount (ofDigits ds) ≤ ds.length := by
      apply length_le_of_padded
      rw [hpadded]
    have htext := IntegerText.mk hsign (ds.length - digitCount (ofDigits ds)) (ofDigits ds)
    rw [Nat.sub_add_cancel hcount] at htext
    have hds : List.replicate (ds.length - digitCount (ofDigits ds)) '0' ++ digits (ofDigits ds) =
        ds := hpadded
    rwa [hds] at htext

/-- A text spells one whole number at most, in one count of digits. -/
theorem IntegerText.unique {m n : Int} {count count' : Nat} (hm : IntegerText m count s)
    (hn : IntegerText n count' s) : m = n ∧ count = count' := by
  obtain ⟨negative, ds, hs, rfl, rfl⟩ := integerText_iff.1 hm
  obtain ⟨negative', ds', hs', rfl, rfl⟩ := integerText_iff.1 hn
  obtain ⟨rfl, rfl⟩ : negative = negative' ∧ ds = ds' := by
    rw [hs] at hs'
    cases hs'
    exact ⟨rfl, rfl⟩
  exact ⟨rfl, rfl⟩

/-! ## Decimals -/

/-- A decimal ends before the text: it starts with nothing that could belong to a decimal. -/
def Ends (s : List Char) : Prop :=
  ∀ c ∈ s.head?, isDigit c = false ∧ c ≠ '.' ∧ c ≠ 'e' ∧ c ≠ 'E'

theorem ends_nil : Ends [] := by
  rintro _ ⟨⟩

theorem Ends.digitless (h : Ends s) : Digitless s := fun c hc => (h c hc).1

/-- What stands behind the mark of an exponent. -/
def spanMarked (s : List Char) (negative : Bool) (unsigned : List Char) : Int × List Char :=
  match spanDigits unsigned with
  | ([], _) => (0, s)
  | (ds, rest) => (signed negative (ofDigits ds), rest)

/-- A sign may as well be looked for behind the mark of an exponent. -/
theorem spanSign_eq (s : List Char) : spanSign s = match s with
    | '-' :: rest => (true, rest)
    | '+' :: rest => (false, rest)
    | _ => (false, s) := by
  split
  · rfl
  · rfl
  · next hminus hplus =>
    apply spanSign_of_unsigned
    intro c hc
    obtain ⟨rest, rfl⟩ := List.head?_eq_some_iff.1 hc
    constructor
    · rintro rfl
      exact hminus rest rfl
    · rintro rfl
      exact hplus rest rfl

/-- Behind its mark an exponent is a sign with digits. -/
theorem spanExponent_cons {mark : Char} (hmark : mark = 'e' ∨ mark = 'E') (s : List Char) :
    spanExponent (mark :: s) = spanMarked (mark :: s) (spanSign s).1 (spanSign s).2 := by
  rw [spanSign_eq]
  rcases hmark with rfl | rfl <;> rfl

/-- **A text of an exponent is cut off whole.** -/
theorem ExponentText.span {e : Int} {text : List Char} (h : ExponentText e text)
    (hrest : Ends rest) : spanExponent (text ++ rest) = (e, rest) := by
  cases h with
  | none =>
    rw [List.nil_append]
    unfold spanExponent
    split
    · exact absurd rfl (hrest _ rfl).2.2.1
    · exact absurd rfl (hrest _ rfl).2.2.2
    · rfl
  | @marked mark negative sign ds hmark hsign hne hdigits =>
    have hsigned : spanSign (sign ++ ds ++ rest) = (negative, ds ++ rest) := by
      rw [List.append_assoc]
      exact spanSign_append hsign (unsigned_of_isDigit hne hdigits)
    obtain ⟨c, more, rfl⟩ := List.exists_cons_of_ne_nil hne
    rw [List.cons_append, spanExponent_cons hmark, hsigned, spanMarked,
      spanDigits_append hdigits hrest.digitless]

/-- What is cut off as an exponent is a text of it. -/
theorem exists_exponentText {e : Int} (h : spanExponent s = (e, rest)) :
    ∃ text, ExponentText e text ∧ s = text ++ rest := by
  by_cases hmark : ∃ mark unsigned, s = mark :: unsigned ∧ (mark = 'e' ∨ mark = 'E')
  · obtain ⟨mark, unsigned, rfl, hmark⟩ := hmark
    rw [spanExponent_cons hmark, spanMarked] at h
    obtain ⟨sign, hsign, hunsigned⟩ := exists_signText unsigned
    split at h
    · cases h
      exact ⟨[], .none, rfl⟩
    · next ds more hne hspan =>
      cases h
      obtain ⟨hdigits, hall⟩ := eq_of_spanDigits hspan
      refine ⟨mark :: (sign ++ ds), .marked hmark hsign hne hall, ?_⟩
      rw [List.cons_append, List.append_assoc, ← hdigits, ← hunsigned]
  · unfold spanExponent at h
    split at h
    · exact absurd ⟨_, _, rfl, .inl rfl⟩ hmark
    · exact absurd ⟨_, _, rfl, .inr rfl⟩ hmark
    · cases h
      exact ⟨[], .none, rfl⟩

/-- The digits behind a point at the head of a text, or none. -/
def spanPoint (s : List Char) : List Char × List Char :=
  match s with
  | '.' :: rest => spanDigits rest
  | _ => ([], s)

/-- What stands behind the digits of a decimal does not go on with them. -/
def AfterDigits (s : List Char) : Prop := ∀ c ∈ s.head?, isDigit c = false ∧ c ≠ '.'

theorem AfterDigits.digitless (h : AfterDigits s) : Digitless s := fun c hc => (h c hc).1

/-- An exponent, which may be left out, ends the digits before it. -/
theorem ExponentText.afterDigits {e : Int} {text : List Char} (h : ExponentText e text)
    (hrest : Ends rest) : AfterDigits (text ++ rest) := by
  cases h with
  | none => exact fun c hc => ⟨(hrest c hc).1, (hrest c hc).2.1⟩
  | marked hmark =>
    rintro c ⟨⟩
    rcases hmark with rfl | rfl <;> decide

/-- Where the digits end without a point, no fraction is read. -/
theorem spanPoint_of_afterDigits (h : AfterDigits s) : spanPoint s = ([], s) := by
  unfold spanPoint
  split
  · exact absurd rfl (h _ rfl).2
  · rfl

/-- The digits before and behind a point are cut off one after the other. -/
theorem MantissaText.span {whole fraction mantissa : List Char}
    (h : MantissaText whole fraction mantissa) (hdigits : (whole ++ fraction).all isDigit = true)
    (hrest : AfterDigits rest) : ∃ behind, spanDigits (mantissa ++ rest) = (whole, behind) ∧
      spanPoint behind = (fraction, rest) := by
  obtain ⟨hwhole, hfraction⟩ : whole.all isDigit = true ∧ fraction.all isDigit = true := by
    rwa [List.all_append, Bool.and_eq_true] at hdigits
  cases h with
  | whole =>
    exact ⟨rest, spanDigits_append hwhole hrest.digitless, spanPoint_of_afterDigits hrest⟩
  | point =>
    have hpoint : Digitless ('.' :: (fraction ++ rest)) := by
      rintro c ⟨⟩
      decide
    refine ⟨'.' :: (fraction ++ rest), ?_, spanDigits_append hfraction hrest.digitless⟩
    rw [List.append_assoc, List.cons_append]
    exact spanDigits_append hwhole hpoint

/-- What is cut off as the digits before and behind a point are such digits. -/
theorem exists_mantissaText {whole fraction behind : List Char}
    (hwhole : spanDigits s = (whole, behind)) (hfraction : spanPoint behind = (fraction, rest)) :
    ∃ mantissa, MantissaText whole fraction mantissa ∧
      (whole ++ fraction).all isDigit = true ∧ s = mantissa ++ rest := by
  obtain ⟨rfl, hall⟩ := eq_of_spanDigits hwhole
  unfold spanPoint at hfraction
  split at hfraction
  · obtain ⟨rfl, hall'⟩ := eq_of_spanDigits hfraction
    exact ⟨_, .point whole fraction, by simp [hall, hall'], by simp⟩
  · cases hfraction
    exact ⟨_, .whole whole, by simpa using hall, rfl⟩

/-- A decimal without its sign starts with a digit or with the point. -/
theorem MantissaText.head {whole fraction mantissa : List Char}
    (h : MantissaText whole fraction mantissa) (hdigits : (whole ++ fraction).all isDigit = true)
    (hne : whole ++ fraction ≠ []) :
    ∀ c ∈ (mantissa ++ rest).head?, isDigit c = true ∨ c = '.' := by
  have hfirst {c : Char} {ds : List Char} (hall : (c :: ds).all isDigit = true) :
      isDigit c = true := List.all_eq_true.1 hall c List.mem_cons_self
  cases h with
  | whole =>
    obtain ⟨d, ds, rfl⟩ := List.exists_cons_of_ne_nil (List.append_nil whole ▸ hne)
    rintro c ⟨⟩
    exact .inl (hfirst hdigits)
  | point =>
    cases whole with
    | nil =>
      rintro c ⟨⟩
      exact .inr rfl
    | cons d ds =>
      rintro c ⟨⟩
      exact .inl (hfirst hdigits)

/-- A mantissa starts with a digit or a point. -/
theorem MantissaText.unsigned {whole fraction mantissa : List Char}
    (h : MantissaText whole fraction mantissa) (hdigits : (whole ++ fraction).all isDigit = true)
    (hne : whole ++ fraction ≠ []) : Unsigned (mantissa ++ rest) := by
  intro c hc
  have hhead := h.head hdigits hne c hc
  constructor
  · rintro rfl
    exact absurd hhead (by decide)
  · rintro rfl
    exact absurd hhead (by decide)

/-- Behind its sign a decimal starts with a digit or with the point. -/
theorem DecimalText.WrittenAs.head {t : DecimalText} (h : t.WrittenAs s) :
    ∀ c ∈ (spanSign s).2.head?, isDigit c = true ∨ c = '.' := by
  obtain @⟨sign, mantissa, exponent, hsign, hmantissa, hdigits, hne, -⟩ := h
  rw [spanSign_append hsign (hmantissa.unsigned hdigits hne)]
  exact hmantissa.head hdigits hne

/-- The pieces of a decimal are cut off one after the other. -/
theorem DecimalText.span?_eq {unsigned whole behind fraction more : List Char} {e : Int}
    (hsign : spanSign s = (negative, unsigned)) (hwhole : spanDigits unsigned = (whole, behind))
    (hfraction : spanPoint behind = (fraction, more)) (hexponent : spanExponent more = (e, rest)) :
    DecimalText.span? s = if whole ++ fraction = [] then none
      else some (⟨negative, whole, fraction, e⟩, rest) := by
  have hpieces : DecimalText.span? s =
      let whole := spanDigits (spanSign s).2
      let fraction := spanPoint whole.2
      let exponent := spanExponent fraction.2
      if whole.1.isEmpty && fraction.1.isEmpty then none
      else some (⟨(spanSign s).1, whole.1, fraction.1, exponent.1⟩, exponent.2) := rfl
  simp only [hpieces, hsign, hwhole, hfraction, hexponent, Bool.and_eq_true, List.isEmpty_iff,
    List.append_eq_nil_iff]

/-- **A text of a decimal is cut off whole.** -/
theorem DecimalText.WrittenAs.span? {t : DecimalText} {text : List Char} (h : t.WrittenAs text)
    (hrest : Ends rest) : DecimalText.span? (text ++ rest) = some (t, rest) := by
  obtain @⟨sign, mantissa, exponent, hsign, hmantissa, hdigits, hne, hexponent⟩ := h
  have hunsigned : Unsigned (mantissa ++ (exponent ++ rest)) := hmantissa.unsigned hdigits hne
  obtain ⟨behind, hwhole, hfraction⟩ := hmantissa.span hdigits (hexponent.afterDigits hrest)
  have hspan := DecimalText.span?_eq (spanSign_append hsign hunsigned) hwhole hfraction
    (hexponent.span hrest)
  rw [if_neg hne] at hspan
  rwa [List.append_assoc, List.append_assoc]

/-- **What is cut off as a decimal is a text of it.** -/
theorem DecimalText.exists_writtenAs {t : DecimalText}
    (h : DecimalText.span? s = some (t, rest)) : ∃ text, t.WrittenAs text ∧ s = text ++ rest := by
  obtain ⟨sign, hsign, hs⟩ := exists_signText s
  generalize hunsigned : spanSign s = signed at hsign hs
  obtain ⟨negative, unsigned⟩ := signed
  generalize hwhole : spanDigits unsigned = digits at *
  obtain ⟨whole, behind⟩ := digits
  generalize hfraction : spanPoint behind = digits at *
  obtain ⟨fraction, more⟩ := digits
  generalize hexponent : spanExponent more = marked at *
  obtain ⟨e, behind'⟩ := marked
  rw [DecimalText.span?_eq hunsigned hwhole hfraction hexponent] at h
  split at h
  · cases h
  · next hne =>
    cases h
    obtain ⟨mantissa, hmantissa, hdigits, rfl⟩ := exists_mantissaText hwhole hfraction
    obtain ⟨exponent, htext, rfl⟩ := exists_exponentText hexponent
    refine ⟨_, .mk hsign hmantissa hdigits hne htext, ?_⟩
    rw [hs, List.append_assoc, List.append_assoc]

end ApiShape.Number
