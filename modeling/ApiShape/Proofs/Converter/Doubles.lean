import ApiShape.Proofs.Converter.Refusals
import ApiShape.Proofs.Number.Doubles

/-!
# Doubles are converted from what they are printed as

A converter prints nothing itself: the printed form of a value is its text. For the converters of
double precision numbers that is so for finite numbers only.

* **`Registry.doubles_printed`** — the converters of a standard registry, lenient or not, at the
  printed form of every value that they give.
* `infinity_converted_to_zero` — an infinity and NaN are read from texts, but become zero when what
  they are printed as is read.
-/

namespace ApiShape

open Number Time ApiShape.Action

/-- The class of the numbers, which marks single precision but does not round to it. -/
def Number.Double.builtin (single : Bool) : Builtin := if single then .float32 else .float

/-- The converter reads doubles and falls back to zero where it is lenient. -/
structure Converter.OfDoubles (c : Converter) (single lenient : Bool) : Prop where
  parse : c.parse = fun raw => (Double.read raw).map (.double single)
  default : c.default = some (.double single .zero)
  lenient : c.lenient = lenient
  strict : c.strict = false

namespace Converter.OfDoubles

variable {c : Converter} {single lenient : Bool} {x : Double} {raw : String}

theorem parse_of_read (h : c.OfDoubles single lenient) (hread : Double.read raw = .ok x) :
    c.parse raw = .ok (.double single x) := by
  rw [h.parse]
  exact map_eq_ok_iff.2 ⟨x, hread, rfl⟩

/-- What is not read becomes null where that is allowed, and zero or a failure where it is not. -/
theorem convert_of_unread {e : Error} (h : c.OfDoubles single lenient)
    (hread : Double.read raw = .error e) :
    c.convert raw true = .ok (.value .null) ∧
      c.convert raw false =
        .ok (if lenient then .value (.double single .zero) else .failure e) := by
  have hparse : c.parse raw = .error e := by
    rw [h.parse]
    exact map_eq_error_iff.2 hread
  rw [← h.lenient]
  exact Converter.convert_of_refused hparse (isUnfitText_of_double hread) h.strict h.default

end Converter.OfDoubles

/-- A standard registry has the converter of either class of doubles. -/
theorem Registry.exists_ofDoubles (zones : ZoneDirectory) (lenient single : Bool) :
    ∃ i, (Registry.standard zones lenient).entries.get? (.ofBuiltin (Double.builtin single)) =
        some i ∧ i.converter.OfDoubles single lenient := by
  obtain ⟨c, hc, htarget, hof⟩ : ∃ c ∈ leafConverters zones lenient,
      c.target = .ofBuiltin (Double.builtin single) ∧ c.OfDoubles single lenient := by
    have hnumeric {c : Converter} (hc : c ∈ numericConverters lenient) :
        c ∈ leafConverters zones lenient := List.mem_append_left _ hc
    cases single with
    | false =>
      exact ⟨_, hnumeric (List.mem_of_getElem? (i := 6) rfl), rfl, rfl, rfl, rfl, rfl⟩
    | true =>
      exact ⟨_, hnumeric (List.mem_of_getElem? (i := 7) rfl), rfl, rfl, rfl, rfl, rfl⟩
  obtain ⟨i, hentry, rfl⟩ := Registry.exists_standard hc
  rw [htarget] at hentry
  exact ⟨i, hentry, hof⟩

/-- **Finite doubles are converted from what they are printed as, and no others.** Whatever a
converter of doubles of a standard registry reads from a text, lenient or not: if the number is
finite, its printed form is parsed, so that no fallback plays a part, and to the same number, the
sign of zero included. If it is infinite or NaN, its printed form is refused: it becomes null where
that is allowed; where it is not, it becomes zero if the registry is lenient, and a failure if it is
not. -/
theorem Registry.doubles_printed (zones : ZoneDirectory) (lenient : Bool) (env : Environment)
    (single : Bool) :
    ∃ i, (Registry.standard zones lenient).resolve env (.ofBuiltin (Double.builtin single)) =
        .ok (.standard zones lenient, i) ∧
      ∀ raw v, i.converter.parse raw = .ok v → ∃ x, v = .double single x ∧
        (x.IsFinite → i.converter.parse v.printed = .ok v ∧
          ∀ nullable, i.converter.convert v.printed nullable = .ok (.value v)) ∧
        (¬ x.IsFinite → i.converter.convert v.printed true = .ok (.value .null) ∧
          i.converter.convert v.printed false =
            .ok (if lenient then .value (.double single .zero)
              else .failure (.fault (.notANumber v.printed)))) := by
  obtain ⟨i, hentry, hi⟩ := Registry.exists_ofDoubles zones lenient single
  refine ⟨i, resolve_of_entry hentry, fun raw v hparse => ?_⟩
  rw [hi.parse] at hparse
  obtain ⟨x, hread, rfl⟩ := map_eq_ok_iff.1 hparse
  refine ⟨x, rfl, fun hfinite => ?_, fun hspecial => ?_⟩
  · have hback := hi.parse_of_read (Double.read_toText (Double.rounded_of_read hread) hfinite)
    exact ⟨hback, fun nullable => Converter.convert_of_ok hback nullable⟩
  · exact hi.convert_of_unread (Double.read_toText_of_not_isFinite hspecial)

/-- **Infinity and NaN become zero or null**: they are read from their texts, but not from what they
are printed as. -/
theorem infinity_converted_to_zero :
    ∃ i, (Registry.standard .standard true).entries.get? (.ofBuiltin .float) = some i ∧
      (i.converter.convert "Infinity" false = .ok (.value (.double false (.infinite false))) ∧
        (Value.double false (.infinite false)).printed = "inf" ∧
        i.converter.convert "inf" false = .ok (.value (.double false .zero)) ∧
        i.converter.convert "inf" true = .ok (.value .null)) ∧
      i.converter.convert "NaN" false = .ok (.value (.double false .nan)) ∧
        (Value.double false .nan).printed = "nan" ∧
        i.converter.convert "nan" false = .ok (.value (.double false .zero)) ∧
        i.converter.convert "nan" true = .ok (.value .null) := by
  obtain ⟨i, hentry, hi⟩ := Registry.exists_ofDoubles .standard true false
  obtain ⟨hnullInf, hzeroInf⟩ := hi.convert_of_unread (show Double.read "inf" = .error _ from rfl)
  obtain ⟨hnullNan, hzeroNan⟩ := hi.convert_of_unread (show Double.read "nan" = .error _ from rfl)
  have hinfinity := hi.parse_of_read (show Double.read "Infinity" = .ok (.infinite false) from rfl)
  have hnan := hi.parse_of_read (show Double.read "NaN" = .ok .nan from rfl)
  exact ⟨i, hentry,
    ⟨Converter.convert_of_ok hinfinity false, rfl, hzeroInf, hnullInf⟩,
    Converter.convert_of_ok hnan false, rfl, hzeroNan, hnullNan⟩

end ApiShape
