import ApiShape.Proofs.Converter.Refusals
import ApiShape.Proofs.Number.Texts
import Mathlib.Algebra.Order.Ring.Int

/-!
# Whole numbers are converted exactly

The types of whole numbers differ in their range only. A number is read from its texts and from no
others (`Number.IntegerType.read_eq_ok_iff`), as long as they have no more digits than are read at
all. What the converter of such a type does then follows from its fallbacks.

* **`Registry.integers_converted`** — the converters of a standard registry, lenient or not, at
  every text.
* `overlong_converted_to_zero` — the limit on digits is no property of the unbounded type: a number
  of it with more digits becomes zero.
-/

namespace ApiShape

open Number Time

namespace Number

theorem cast_twoTo (n : Nat) : (twoTo n : Int) = 2 ^ n := by
  show ((2 ^ n : ℕ) : ℤ) = 2 ^ n
  push_cast
  rfl

namespace IntegerType

variable {t : IntegerType} {n : Int} {raw : String}

/-- The class of the numbers of the type. -/
def builtin : IntegerType → Builtin
  | unbounded => .int
  | int8 => .int8
  | int16 => .int16
  | int32 => .int32
  | int64 => .int64

/-- The number is in the two's complement range of the type, if the type has bounds. -/
def InRange (t : IntegerType) (n : Int) : Prop :=
  ∀ b, t.bits? = some b → -2 ^ (b - 1) ≤ n ∧ n < 2 ^ (b - 1)

/-- A type admits the numbers in its range. -/
theorem admits_iff : t.admits n = true ↔ t.InRange n := by
  unfold admits InRange
  cases t.bits? with
  | none => simp
  | some b => simp [cast_twoTo]

/-- The text is one of the number, with no more digits than are read. -/
def Spells (t : IntegerType) (n : Int) (raw : String) : Prop :=
  t.InRange n ∧ ∃ count ≤ maxDigits, IntegerText n count raw.toList

/-- **A number is read from its texts**, and nothing is read from any other text. -/
theorem read_eq_ok_iff {v : Value} :
    t.read raw = .ok v ↔ ∃ n, t.Spells n raw ∧ v = .integer t n := by
  unfold read
  constructor
  · intro h
    split at h
    · cases h
    · next negative ds hdigits =>
      split at h
      · cases h
      · next hcount =>
        dsimp only at h
        split at h
        · next hadmits =>
          cases h
          have htext := integerText_iff.2 ⟨negative, ds, hdigits, rfl, rfl⟩
          exact ⟨_, ⟨admits_iff.1 hadmits, ds.length, Nat.le_of_not_lt hcount, htext⟩, rfl⟩
        · cases h
  · rintro ⟨n, ⟨hrange, count, hcount, htext⟩, rfl⟩
    obtain ⟨negative, ds, hdigits, rfl, rfl⟩ := integerText_iff.1 htext
    simp only [hdigits, if_neg (Nat.not_lt_of_le hcount), admits_iff.2 hrange, if_true]

end IntegerType

end Number

/-! ## The converters of whole numbers -/

/-- The converter reads the numbers of the type and falls back to zero where it is lenient. -/
structure Converter.OfIntegers (c : Converter) (t : IntegerType) (lenient : Bool) : Prop where
  parse : c.parse = t.read
  default : c.default = some (.integer t 0)
  lenient : c.lenient = lenient
  strict : c.strict = false

namespace Converter.OfIntegers

variable {c : Converter} {t : IntegerType} {lenient : Bool} {n : Int} {raw : String}

/-- A text that spells a number of the type is converted to it. -/
theorem convert_of_spells (h : c.OfIntegers t lenient) (hn : t.Spells n raw) (nullable : Bool) :
    c.convert raw nullable = .ok (.value (.integer t n)) := by
  apply convert_of_ok
  rw [h.parse]
  exact IntegerType.read_eq_ok_iff.2 ⟨n, hn, rfl⟩

/-- Any other text becomes null where that is allowed, and zero or a failure where it is not. -/
theorem convert_of_not_spells (h : c.OfIntegers t lenient) (hnone : ∀ n, ¬ t.Spells n raw) :
    c.convert raw true = .ok (.value .null) ∧
      ∃ reason, c.convert raw false =
        .ok (if lenient then .value (.integer t 0) else .failure reason) := by
  cases hread : t.read raw with
  | ok v =>
    obtain ⟨n, hn, -⟩ := IntegerType.read_eq_ok_iff.1 hread
    exact absurd hn (hnone n)
  | error e =>
    have hfit := (reads_integer t).2 raw e hread
    obtain ⟨hnull, hzero⟩ := convert_of_refused (c := c) (h.parse ▸ hread) hfit h.strict h.default
    rw [h.lenient] at hzero
    exact ⟨hnull, e, hzero⟩

end Converter.OfIntegers

/-- A standard registry has the converter of each type of whole numbers. -/
theorem Registry.exists_ofIntegers (zones : ZoneDirectory) (lenient : Bool) (t : IntegerType) :
    ∃ i, (Registry.standard zones lenient).entries.get? (.ofBuiltin t.builtin) = some i ∧
      i.converter.OfIntegers t lenient := by
  obtain ⟨c, hc, htarget, hof⟩ : ∃ c ∈ leafConverters zones lenient,
      c.target = .ofBuiltin t.builtin ∧ c.OfIntegers t lenient := by
    cases t with
    | int8 => exact ⟨_, .head _, rfl, rfl, rfl, rfl, rfl⟩
    | int16 => exact ⟨_, .tail _ (.head _), rfl, rfl, rfl, rfl, rfl⟩
    | int32 => exact ⟨_, .tail _ (.tail _ (.head _)), rfl, rfl, rfl, rfl, rfl⟩
    | int64 => exact ⟨_, .tail _ (.tail _ (.tail _ (.head _))), rfl, rfl, rfl, rfl, rfl⟩
    | unbounded =>
      exact ⟨_, .tail _ (.tail _ (.tail _ (.tail _ (.head _)))), rfl, rfl, rfl, rfl, rfl⟩
  obtain ⟨i, hentry, rfl⟩ := Registry.exists_standard hc
  rw [htarget] at hentry
  exact ⟨i, hentry, hof⟩

/-- **Whole numbers are converted exactly.** In a standard registry, lenient or not, a text of a
number in the range of a type is converted to that number, null being allowed or not, if it has no
more digits than are read. Every other text becomes null where that is allowed; where it is not, it
becomes zero if the registry is lenient, and a failure if it is not. -/
theorem Registry.integers_converted (zones : ZoneDirectory) (lenient : Bool) (env : Environment)
    (t : IntegerType) :
    ∃ i, (Registry.standard zones lenient).resolve env (.ofBuiltin t.builtin) =
        .ok (.standard zones lenient, i) ∧
      (∀ n count raw, IntegerText n count raw.toList → t.InRange n → count ≤ maxDigits →
        ∀ nullable, i.converter.convert raw nullable = .ok (.value (.integer t n))) ∧
      ∀ raw, (∀ n count, IntegerText n count raw.toList → t.InRange n → maxDigits < count) →
        i.converter.convert raw true = .ok (.value .null) ∧
          ∃ reason, i.converter.convert raw false =
            .ok (if lenient then .value (.integer t 0) else .failure reason) := by
  obtain ⟨i, hentry, hi⟩ := Registry.exists_ofIntegers zones lenient t
  refine ⟨i, resolve_of_entry hentry, ?_, ?_⟩
  · intro n count raw htext hrange hcount nullable
    exact hi.convert_of_spells ⟨hrange, count, hcount, htext⟩ nullable
  · intro raw hother
    apply hi.convert_of_not_spells
    rintro n ⟨hrange, count, hcount, htext⟩
    exact absurd (hother n count htext hrange) (Nat.not_lt_of_le hcount)

/-- A one with zeros behind it is a power of ten. -/
theorem integerText_one_zeros (zeros : Nat) :
    IntegerText (10 ^ zeros) (zeros + 1) ('1' :: List.replicate zeros '0') := by
  have hall : ('1' :: List.replicate zeros '0').all isDigit = true := by
    rw [List.all_cons, all_isDigit_zeros]
    rfl
  have hdigits := signedDigits?_eq_some_iff.2
    ⟨List.cons_ne_nil _ _, hall, [], SignText.none, List.nil_append _⟩
  have hvalue : ofDigits ('1' :: List.replicate zeros '0') = 10 ^ zeros := by
    rw [ofDigits_cons, ofDigits_replicate_zero, List.length_replicate]
    simp [tenTo]
  refine integerText_iff.2 ⟨false, _, hdigits, ?_, ?_⟩
  · rw [hvalue]
    simp [signed]
  · rw [List.length_cons, List.length_replicate]

/-- A one with as many zeros behind it as there are digits that are read. -/
def overlong : String := String.ofList ('1' :: List.replicate maxDigits '0')

theorem integerText_overlong : IntegerText (10 ^ maxDigits) (maxDigits + 1) overlong.toList := by
  rw [overlong, String.toList_ofList]
  exact integerText_one_zeros maxDigits

/-- **A number of the unbounded type becomes zero or null** where it has too many digits. -/
theorem overlong_converted_to_zero :
    IntegerText (10 ^ maxDigits) (maxDigits + 1) overlong.toList ∧
      IntegerType.unbounded.InRange (10 ^ maxDigits) ∧
      ∃ i, (Registry.standard .standard true).entries.get? (.ofBuiltin .int) = some i ∧
        i.converter.convert overlong false = .ok (.value (.integer .unbounded 0)) ∧
        i.converter.convert overlong true = .ok (.value .null) := by
  obtain ⟨i, hentry, hi⟩ := Registry.exists_ofIntegers .standard true .unbounded
  have hother : ∀ n, ¬ IntegerType.unbounded.Spells n overlong := by
    rintro n ⟨-, count, hcount, htext⟩
    have hsame := (htext.unique integerText_overlong).2
    omega
  obtain ⟨hnull, _, hzero⟩ := hi.convert_of_not_spells hother
  have hrange : IntegerType.unbounded.InRange (10 ^ maxDigits) := by
    rintro b ⟨⟩
  exact ⟨integerText_overlong, hrange, i, hentry, hzero, hnull⟩

end ApiShape
