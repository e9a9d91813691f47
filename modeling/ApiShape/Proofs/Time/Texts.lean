import ApiShape.Proofs.Number.Digits
import ApiShape.Time.Iso
import ApiShape.Time.Reading

/-!
# The texts of dates, times and offsets

Which texts a value is written as is said here without a reader: a date as one text only
(`Date.iso`), a time of day and an offset as several (`TimeOfDay.WrittenAs`, `Offset.WrittenAs`),
since zero seconds, zeros of a fraction and colons may be left out.

Readers cut a text into fields from its head. For each field there are two lemmas: what is cut off
is one of the texts of the value (soundness), and each of the texts is cut off whole if the text
behind it could not belong to it (`Stops`, completeness). The readers of whole texts are the two
together:

* **`Date.read_eq_ok_iff`**, **`TimeOfDay.read_eq_ok_iff`**, **`Offset.read_eq_ok_iff`**,
  **`OffsetTime.read_eq_ok_iff`**, **`DateTime.read_eq_ok_iff`**,
  **`OffsetDateTime.read_eq_ok_iff`** — a value is read from a text exactly if it is written as that
  text.
-/

namespace ApiShape.Time

open ApiShape.Number

/-! ## The texts -/

/-- The texts of a time of day, `HH:mm[:ss[.fraction]]`. The microseconds are what one to nine
digits of fraction come to, cut off below. -/
inductive TimeOfDay.WrittenAs (t : TimeOfDay) : List Char → Prop
  | minutes (hsecond : t.second = 0) (hmicrosecond : t.microsecond = 0) :
      t.WrittenAs (padded 2 t.hour ++ ':' :: padded 2 t.minute)
  | seconds (hmicrosecond : t.microsecond = 0) :
      t.WrittenAs (padded 2 t.hour ++ ':' :: padded 2 t.minute ++ ':' :: padded 2 t.second)
  | fraction {ds : List Char} (hdigits : ds.all isDigit = true) (hpos : 1 ≤ ds.length)
      (hlength : ds.length ≤ 9)
      (hmicrosecond : t.microsecond = ofDigits ds * 1000000 / tenTo ds.length) :
      t.WrittenAs (padded 2 t.hour ++ ':' :: padded 2 t.minute ++ ':' :: padded 2 t.second ++
        '.' :: ds)

/-- A colon that may be left out. -/
def colonText (present : Bool) : List Char := if present then [':'] else []

/-- What may stand behind the hours of an offset: the minutes and seconds, each of them two digits
behind an optional colon, the last ones left out where they are zero. -/
inductive OffsetTail : (minutes seconds : Nat) → List Char → Prop
  | hours : OffsetTail 0 0 []
  | minutes (colon : Bool) (minutes : Nat) :
      OffsetTail minutes 0 (colonText colon ++ padded 2 minutes)
  | seconds (colon colon' : Bool) (minutes seconds : Nat) :
      OffsetTail minutes seconds
        (colonText colon ++ padded 2 minutes ++ (colonText colon' ++ padded 2 seconds))

/-- An offset of at most 18 hours to either side. -/
def Offset.InRange (offset : Offset) : Prop := offset.natAbs ≤ maxOffset

instance (offset : Offset) : Decidable (Offset.InRange offset) :=
  inferInstanceAs (Decidable (_ ≤ _))

def signText (negative : Bool) : Char := if negative then '-' else '+'

/-- The texts of an offset: `Z`, or a sign with `HH[[:]mm[[:]ss]]` up to 18 hours. The sign is that
of the hours, the minutes and the seconds. -/
inductive Offset.WrittenAs : Offset → List Char → Prop
  | utc : Offset.WrittenAs 0 ['Z']
  | signed (negative : Bool) {hours minutes seconds : Nat} {tail : List Char}
      (htail : OffsetTail minutes seconds tail) (hminutes : minutes ≤ 59) (hseconds : seconds ≤ 59)
      (hsize : hours * 3600 + minutes * 60 + seconds ≤ maxOffset) :
      Offset.WrittenAs (Number.signed negative (hours * 3600 + minutes * 60 + seconds))
        (signText negative :: padded 2 hours ++ tail)

/-- The separators between a date and a time. -/
def IsSeparator (c : Char) : Prop := c = 'T' ∨ c = ' '

/-- The texts of a date-time: the date, a separator and the time. -/
inductive DateTime.WrittenAs (t : DateTime) : List Char → Prop
  | mk {separator : Char} {time : List Char} (hseparator : IsSeparator separator)
      (htime : t.time.WrittenAs time) : t.WrittenAs (t.date.iso ++ separator :: time)

/-- The texts of a time with an offset: the time and the offset one after the other. -/
inductive OffsetTime.WrittenAs (t : OffsetTime) : List Char → Prop
  | mk {time offset : List Char} (htime : t.time.WrittenAs time)
      (hoffset : Offset.WrittenAs t.offset offset) : t.WrittenAs (time ++ offset)

/-- The texts of a date-time with an offset. -/
inductive OffsetDateTime.WrittenAs (t : OffsetDateTime) : List Char → Prop
  | mk {wall offset : List Char} (hwall : t.wall.WrittenAs wall)
      (hoffset : Offset.WrittenAs t.offset offset) : t.WrittenAs (wall ++ offset)

/-! ## Fields of a fixed width -/

/-- The text does not go on with a character that a time or an offset could take for its own. -/
def Stops : List Char → Prop
  | [] => True
  | c :: _ => c ≠ ':' ∧ c ≠ '.' ∧ isDigit c = false

variable {s rest : List Char}

/-- A number that is padded to the width of its field is read back, whatever follows. -/
theorem spanFixed_append {count n : Nat} (hcount : 0 < count) (h : n < tenTo count)
    (rest : List Char) : spanFixed count (padded count n ++ rest) = some (n, rest) := by
  have hlength := length_padded hcount h
  have htake : (padded count n ++ rest).take count = padded count n := List.take_left' hlength
  have hdrop : (padded count n ++ rest).drop count = rest := List.drop_left' hlength
  simp only [spanFixed, htake, hdrop]
  rw [if_pos ⟨hlength, all_isDigit_padded _ _⟩, ofDigits_padded]

/-- **A field of fixed width is a padded number at the head of the text.** -/
theorem spanFixed_eq_some_iff {count n : Nat} (hcount : 0 < count) :
    spanFixed count s = some (n, rest) ↔ n < tenTo count ∧ s = padded count n ++ rest := by
  constructor
  · intro h
    simp only [spanFixed] at h
    split at h
    · next hds =>
      obtain ⟨hlength, hdigits⟩ := hds
      cases h
      have hne : s.take count ≠ [] := List.ne_nil_of_length_pos (by omega)
      have hlt := ofDigits_lt hdigits
      have hpadded := padded_ofDigits hne hdigits
      rw [hlength] at hlt hpadded
      exact ⟨hlt, by rw [hpadded, List.take_append_drop]⟩
    · cases h
  · rintro ⟨h, rfl⟩
    exact spanFixed_append hcount h rest

theorem stops_nil : Stops [] := trivial

/-- No field of fixed width starts where the text stops. -/
theorem spanFixed_of_stops {count : Nat} (hcount : 0 < count) (h : Stops rest) :
    spanFixed count rest = none := by
  obtain ⟨count, rfl⟩ := Nat.exists_eq_add_of_le' hcount
  simp only [spanFixed]
  refine if_neg ?_
  rintro ⟨hlength, hdigits⟩
  cases rest with
  | nil => cases hlength
  | cons c rest =>
    have hc : isDigit c = true := (List.all_eq_true.1 hdigits) c (by simp)
    rw [h.2.2] at hc
    cases hc

/-! ## Dates -/

def Date.toFields (d : Date) : DateFields := ⟨d.year, d.month, d.day⟩

theorem daysInMonth_le (year month : Nat) : daysInMonth year month ≤ 31 := by
  unfold daysInMonth
  split
  case h_12 => split <;> decide
  all_goals decide

/-- The numbers of a date fit the fields that they are written into. -/
theorem Date.fits (d : Date) : d.year < tenTo 4 ∧ d.month < tenTo 2 ∧ d.day < tenTo 2 := by
  obtain ⟨-, hyear, -, hmonth, -, hday⟩ := d.isDate
  have hdays := daysInMonth_le d.year d.month
  refine ⟨?_, ?_, ?_⟩
  · exact Nat.lt_of_le_of_lt hyear (by decide)
  · exact Nat.lt_of_le_of_lt hmonth (by decide)
  · exact Nat.lt_of_le_of_lt (Nat.le_trans hday hdays) (by decide)

/-- A written date is cut off as its fields. -/
theorem DateFields.span?_iso (d : Date) (rest : List Char) :
    DateFields.span? (d.iso ++ rest) = some (d.toFields, rest) := by
  obtain ⟨hyear, hmonth, hday⟩ := d.fits
  have htext : d.iso ++ rest = padded 4 d.year ++ '-' :: (padded 2 d.month ++ '-' ::
      (padded 2 d.day ++ rest)) := by
    simp [Date.iso]
  simp only [DateFields.span?, htext, spanFixed_append (Nat.zero_lt_succ _) hyear,
    spanFixed_append (Nat.zero_lt_succ _) hmonth, spanFixed_append (Nat.zero_lt_succ _) hday,
    Option.map_some]
  rfl

/-- The fields of a date are in range. -/
theorem DateFields.toDate_toFields (d : Date) : d.toFields.toDate = .ok d := by
  simp only [DateFields.toDate, Date.toFields, Date.make_of_isDate d.isDate]
  rfl

/-- Fields in range are those of the date that they give. -/
theorem DateFields.eq_toFields {f : DateFields} {d : Date} (h : f.toDate = .ok d) :
    f = d.toFields := by
  simp only [DateFields.toDate, Date.make] at h
  split at h
  · cases h
    rfl
  · split at h
    · cases h
    · split at h <;> cases h

/-- The fields of a date are cut off its text, and of no other. -/
theorem DateFields.span?_eq_some {f : DateFields} {d : Date}
    (h : DateFields.span? s = some (f, rest)) (hd : f.toDate = .ok d) : s = d.iso ++ rest := by
  obtain rfl := DateFields.eq_toFields hd
  unfold DateFields.span? at h
  split at h
  · next year s₁ hyear =>
    split at h
    · next month s₂ hmonth =>
      obtain ⟨⟨day, s₃⟩, hday, heq⟩ := Option.map_eq_some_iff.1 h
      cases heq
      rw [((spanFixed_eq_some_iff (by decide)).1 hyear).2,
        ((spanFixed_eq_some_iff (by decide)).1 hmonth).2,
        ((spanFixed_eq_some_iff (by decide)).1 hday).2]
      simp [Date.iso]
    · cases h
  · cases h

/-- A date is read from its written form and from no other text. -/
theorem Date.read_eq_ok_iff {text : String} {d : Date} :
    Date.read text = .ok d ↔ text.toList = d.iso := by
  unfold Date.read
  constructor
  · intro h
    split at h
    · next f hspan => rw [DateFields.span?_eq_some hspan h, List.append_nil]
    · cases h
  · intro h
    rw [h, ← List.append_nil d.iso, DateFields.span?_iso]
    exact DateFields.toDate_toFields d

/-! ## Times of day -/

/-- **The microseconds of a fraction are the fraction of a second, cut off below.** Both sides are
the digits filled up to nine, without the last three. -/
theorem microsecondsOf_eq {ds : List Char} (hdigits : ds.all isDigit = true)
    (hlength : ds.length ≤ 9) :
    microsecondsOf ds = ofDigits ds * 1000000 / tenTo ds.length := by
  have hfilled : (ds ++ List.replicate (9 - ds.length) '0').all isDigit = true := by
    rw [List.all_append, hdigits, Bool.true_and, List.all_eq_true]
    intro c hc
    obtain rfl := List.eq_of_mem_replicate hc
    decide
  have hnine : (ds ++ List.replicate (9 - ds.length) '0').length = 9 := by
    rw [List.length_append, List.length_replicate, Nat.add_sub_cancel' hlength]
  have hscale : tenTo ds.length * tenTo (9 - ds.length) = 1000000 * 1000 := by
    rw [← tenTo_add, Nat.add_sub_cancel' hlength]
    rfl
  calc microsecondsOf ds
      = tenTo (9 - ds.length) * ofDigits ds / 1000 := by
        rw [microsecondsOf, ofDigits_take hfilled, hnine, ofDigits_append,
          ofDigits_replicate_zero, List.length_replicate, Nat.add_zero]
        rfl
    _ = 1000000 * (tenTo (9 - ds.length) * ofDigits ds) / (1000000 * 1000) :=
        (Nat.mul_div_mul_left _ _ (by decide)).symm
    _ = ofDigits ds * 1000000 * tenTo (9 - ds.length) /
          (tenTo ds.length * tenTo (9 - ds.length)) := by
        rw [hscale, Nat.mul_comm (tenTo _), ← Nat.mul_assoc, Nat.mul_comm (ofDigits ds)]
    _ = ofDigits ds * 1000000 / tenTo ds.length := Nat.mul_div_mul_right _ _ (tenTo_pos _)

/-- Six digits of fraction are less than a second. -/
theorem microsecondsOf_lt {ds : List Char} (hdigits : ds.all isDigit = true)
    (hlength : ds.length ≤ 9) : microsecondsOf ds < 1000000 := by
  rw [microsecondsOf_eq hdigits hlength, Nat.div_lt_iff_lt_mul (tenTo_pos _), Nat.mul_comm]
  exact Nat.mul_lt_mul_of_pos_left (ofDigits_lt hdigits) (by decide)

/-- Where no fraction starts, none is read. -/
theorem spanFraction_of_stops (h : Stops rest) : spanFraction rest = (0, rest) := by
  unfold spanFraction
  split
  · exact absurd rfl h.2.1
  · rfl

/-- Up to nine digits are taken if no digit follows. -/
theorem takeWhile_take_digits {ds : List Char} (hdigits : ds.all isDigit = true)
    (hlength : ds.length ≤ 9) (h : Stops rest) :
    ((ds ++ rest).take 9).takeWhile isDigit = ds := by
  have hrest : (rest.take (9 - ds.length)).takeWhile isDigit = [] := by
    cases rest with
    | nil => simp
    | cons c rest =>
      cases 9 - ds.length with
      | zero => rfl
      | succ n => simp [h.2.2]
  rw [List.take_append, List.take_of_length_le hlength, List.takeWhile_append_of_pos, hrest,
    List.append_nil]
  exact List.all_eq_true.1 hdigits

/-- A fraction is read as far as its digits go. -/
theorem spanFraction_append {ds : List Char} (hdigits : ds.all isDigit = true)
    (hpos : 1 ≤ ds.length) (hlength : ds.length ≤ 9) (h : Stops rest) :
    spanFraction ('.' :: (ds ++ rest)) = (microsecondsOf ds, rest) := by
  have hne : ds.isEmpty = false := by
    cases ds with
    | nil => cases hpos
    | cons => rfl
  simp only [spanFraction, takeWhile_take_digits hdigits hlength h, hne, Bool.false_eq_true,
    if_false, List.drop_left]

/-- A fraction is cut off with its point, or there is none. -/
theorem spanFraction_eq {microseconds : Nat} (h : spanFraction s = (microseconds, rest)) :
    microseconds = 0 ∧ s = rest ∨ ∃ ds, ds.all isDigit = true ∧ 1 ≤ ds.length ∧ ds.length ≤ 9 ∧
      microseconds = microsecondsOf ds ∧ s = '.' :: (ds ++ rest) := by
  unfold spanFraction at h
  split at h
  · next behind =>
    simp only at h
    split at h
    · cases h
      exact .inl ⟨rfl, rfl⟩
    · next hne =>
      obtain ⟨rfl, rfl⟩ := Prod.mk.inj h
      have hpart := List.takeWhile_prefix (l := behind.take 9) isDigit
      have hbehind := List.prefix_iff_eq_append.1 (hpart.trans (List.take_prefix 9 behind))
      refine .inr ⟨_, List.all_takeWhile, ?_, ?_, rfl, ?_⟩
      · exact List.length_pos_iff.2 (by simpa using hne)
      · exact Nat.le_trans hpart.length_le (List.length_take_le 9 behind)
      · rw [hbehind]
  · cases h
    exact .inl ⟨rfl, rfl⟩

def TimeOfDay.toFields (t : TimeOfDay) : TimeFields := ⟨t.hour, t.minute, t.second, t.microsecond⟩

/-- The fields of a time of day are in range. -/
theorem TimeFields.toTime_toFields (t : TimeOfDay) : t.toFields.toTime = .ok t := by
  have hmicrosecond := Nat.mod_eq_of_lt t.microsecond_lt
  simp only [TimeFields.toTime, TimeOfDay.toFields, TimeOfDay.make, t.hour_lt, t.minute_lt,
    t.second_lt, dif_pos, hmicrosecond]
  rfl

/-- Fields in range are those of the time that they give. -/
theorem TimeFields.eq_toFields {f : TimeFields} {t : TimeOfDay} (hf : f.microsecond < 1000000)
    (h : f.toTime = .ok t) : f = t.toFields := by
  have hmicrosecond := Nat.mod_eq_of_lt hf
  simp only [TimeFields.toTime, TimeOfDay.make] at h
  split at h
  · split at h
    · split at h
      · cases h
        simp only [TimeOfDay.toFields, hmicrosecond]
      · cases h
    · cases h
  · cases h

/-- The numbers of a time of day fit the fields that they are written into. -/
theorem TimeOfDay.fits (t : TimeOfDay) :
    t.hour < tenTo 2 ∧ t.minute < tenTo 2 ∧ t.second < tenTo 2 :=
  ⟨Nat.lt_trans t.hour_lt (by decide), Nat.lt_trans t.minute_lt (by decide),
    Nat.lt_trans t.second_lt (by decide)⟩

/-- **A text of a time of day is cut off whole**, if the text stops behind it. -/
theorem TimeOfDay.WrittenAs.span? {t : TimeOfDay} {text : List Char} (h : t.WrittenAs text)
    (hstops : Stops rest) : TimeFields.span? (text ++ rest) = some (t.toFields, rest) := by
  obtain ⟨hhour, hminute, hsecond⟩ := t.fits
  have htwo : 0 < 2 := by decide
  cases h with
  -- without seconds the scan stops at what follows, which is no colon
  | minutes hs hm =>
    have hspan : TimeFields.span? (padded 2 t.hour ++ ':' :: (padded 2 t.minute ++ rest)) =
        some (⟨t.hour, t.minute, 0, 0⟩, rest) := by
      simp only [TimeFields.span?, spanFixed_append htwo hhour, spanFixed_append htwo hminute]
      split
      · exact absurd rfl hstops.1
      · rfl
    simpa [toFields, hs, hm] using hspan
  | seconds hm =>
    have hspan : TimeFields.span? (padded 2 t.hour ++ ':' :: (padded 2 t.minute ++ ':' ::
        (padded 2 t.second ++ rest))) = some (⟨t.hour, t.minute, t.second, 0⟩, rest) := by
      simp only [TimeFields.span?, spanFixed_append htwo hhour, spanFixed_append htwo hminute,
        spanFixed_append htwo hsecond, spanFraction_of_stops hstops]
    simpa [toFields, hm] using hspan
  -- digits behind a point may be fewer than six: they are the first ones of the microseconds
  | @fraction ds hdigits hpos hlength hm =>
    have hspan : TimeFields.span? (padded 2 t.hour ++ ':' :: (padded 2 t.minute ++ ':' ::
        (padded 2 t.second ++ '.' :: (ds ++ rest)))) =
          some (⟨t.hour, t.minute, t.second, microsecondsOf ds⟩, rest) := by
      simp only [TimeFields.span?, spanFixed_append htwo hhour, spanFixed_append htwo hminute,
        spanFixed_append htwo hsecond, spanFraction_append hdigits hpos hlength hstops]
    simpa [toFields, hm, microsecondsOf_eq hdigits hlength] using hspan

/-- **What is cut off as the fields of a time of day is one of its texts.** -/
theorem TimeFields.writtenAs_of_span? {f : TimeFields} {t : TimeOfDay}
    (h : TimeFields.span? s = some (f, rest)) (ht : f.toTime = .ok t) :
    ∃ text, t.WrittenAs text ∧ s = text ++ rest := by
  have htwo : 0 < 2 := by decide
  have hminutes : ∀ {hour minute : Nat} {s₁ s₂ : List Char}, s = padded 2 hour ++ ':' :: s₁ →
      s₁ = padded 2 minute ++ s₂ → some (TimeFields.mk hour minute 0 0, s₂) = some (f, rest) →
      ∃ text, t.WrittenAs text ∧ s = text ++ rest := by
    intro hour minute s₁ s₂ hs hs₁ heq
    cases heq
    have hf := TimeFields.eq_toFields (f := ⟨hour, minute, 0, 0⟩) (Nat.zero_lt_succ _) ht
    obtain ⟨rfl, rfl, hsecond, hmicrosecond⟩ := TimeFields.mk.inj hf
    exact ⟨_, .minutes hsecond.symm hmicrosecond.symm, by simp [hs, hs₁]⟩
  unfold TimeFields.span? at h
  split at h
  · next hour s₁ hhour =>
    have hs := ((spanFixed_eq_some_iff htwo).1 hhour).2
    split at h
    · next minute s₂ hminute =>
      have hs₁ := ((spanFixed_eq_some_iff htwo).1 hminute).2
      split at h
      · next s₃ =>
        split at h
        · next second s₄ hsecond =>
          have hs₃ := ((spanFixed_eq_some_iff htwo).1 hsecond).2
          cases hfraction : spanFraction s₄ with
          | mk microseconds s₅ =>
            simp only [hfraction] at h
            cases h
            rcases spanFraction_eq hfraction with ⟨rfl, hs₄⟩ | ⟨ds, hds, hpos, hlen, rfl, hs₄⟩
            · have hf := TimeFields.eq_toFields (f := ⟨hour, minute, second, 0⟩)
                (Nat.zero_lt_succ _) ht
              obtain ⟨rfl, rfl, rfl, hmicrosecond⟩ := TimeFields.mk.inj hf
              exact ⟨_, .seconds hmicrosecond.symm, by simp [hs, hs₁, hs₃, hs₄]⟩
            · have hf := TimeFields.eq_toFields (f := ⟨hour, minute, second, microsecondsOf ds⟩)
                (microsecondsOf_lt hds hlen) ht
              obtain ⟨rfl, rfl, rfl, hmicrosecond⟩ := TimeFields.mk.inj hf
              have hvalue := hmicrosecond.symm.trans (microsecondsOf_eq hds hlen)
              exact ⟨_, .fraction hds hpos hlen hvalue, by simp [hs, hs₁, hs₃, hs₄]⟩
        -- no seconds behind the second colon, which then belongs to the text behind
        · exact hminutes hs hs₁ h
      · exact hminutes hs hs₁ h
    · cases h
  · cases h

/-- A time of day is read from exactly the texts that write it. -/
theorem TimeOfDay.read_eq_ok_iff {text : String} {t : TimeOfDay} :
    TimeOfDay.read text = .ok t ↔ t.WrittenAs text.toList := by
  unfold TimeOfDay.read
  constructor
  · intro h
    split at h
    · next f hspan =>
      obtain ⟨text', htext, heq⟩ := TimeFields.writtenAs_of_span? hspan h
      rwa [heq, List.append_nil]
    · cases h
  · intro h
    rw [← List.append_nil text.toList, h.span? stops_nil]
    exact TimeFields.toTime_toFields t

/-! ## Offsets -/

/-- Two digits are cut off with the colon before them, or without one. -/
theorem spanColonTwo_eq_some_iff {n : Nat} :
    spanColonTwo s = some (n, rest) ↔
      n < tenTo 2 ∧ ∃ colon, s = colonText colon ++ padded 2 n ++ rest := by
  have htwo : 0 < 2 := by decide
  constructor
  · intro h
    unfold spanColonTwo at h
    split at h
    · obtain ⟨hn, rfl⟩ := (spanFixed_eq_some_iff htwo).1 h
      exact ⟨hn, true, rfl⟩
    · obtain ⟨hn, rfl⟩ := (spanFixed_eq_some_iff htwo).1 h
      exact ⟨hn, false, rfl⟩
  · rintro ⟨hn, colon, rfl⟩
    have hspan := spanFixed_append htwo hn rest
    cases colon with
    | true => exact hspan
    | false =>
      unfold spanColonTwo
      split
      · next heq =>
        -- a colon is no digit, so no number starts with it
        have hcolon : spanFixed 2 (padded 2 n ++ rest) = none := by
          rw [show padded 2 n ++ rest = _ from heq]
          simp [spanFixed, isDigit, Text.asciiDigit?]
        rw [hspan] at hcolon
        cases hcolon
      · exact hspan

/-- Where an offset stops, no further field of it is read. -/
theorem spanColonTwo_of_stops (h : Stops rest) : spanColonTwo rest = none := by
  unfold spanColonTwo
  split
  · exact absurd rfl h.1
  · exact spanFixed_of_stops (by decide) h

/-- The fields behind the sign of an offset are cut off, whatever the offset stops at. -/
theorem OffsetFields.spanSigned?_append {hours minutes seconds : Nat} {tail : List Char}
    (htail : OffsetTail minutes seconds tail) (hhours : hours < tenTo 2)
    (hminutes : minutes < tenTo 2) (hseconds : seconds < tenTo 2) (hstops : Stops rest)
    (negative : Bool) :
    spanSigned? negative (padded 2 hours ++ (tail ++ rest)) =
      some (⟨negative, hours, minutes, seconds⟩, rest) := by
  simp only [spanSigned?, spanFixed_append (Nat.zero_lt_succ _) hhours, Option.map_some]
  cases htail with
  -- what follows is no field, so none is read where none is written
  | hours => simp only [List.nil_append, spanColonTwo_of_stops hstops]
  | minutes colon =>
    have hspan : spanColonTwo (colonText colon ++ padded 2 minutes ++ rest) =
        some (minutes, rest) := spanColonTwo_eq_some_iff.2 ⟨hminutes, colon, rfl⟩
    simp only [hspan, spanColonTwo_of_stops hstops]
  | seconds colon colon' =>
    have hspan : spanColonTwo (colonText colon ++ padded 2 minutes ++
        (colonText colon' ++ padded 2 seconds ++ rest)) =
          some (minutes, colonText colon' ++ padded 2 seconds ++ rest) :=
      spanColonTwo_eq_some_iff.2 ⟨hminutes, colon, rfl⟩
    have hspan' : spanColonTwo (colonText colon' ++ padded 2 seconds ++ rest) =
        some (seconds, rest) := spanColonTwo_eq_some_iff.2 ⟨hseconds, colon', rfl⟩
    rw [List.append_assoc (colonText colon ++ padded 2 minutes)]
    simp only [hspan, hspan']

/-- What is cut off behind the sign of an offset are hours and a tail of minutes and seconds. -/
theorem OffsetFields.spanSigned?_eq_some {negative : Bool} {f : OffsetFields}
    (h : spanSigned? negative s = some (f, rest)) :
    f.negative = negative ∧
      ∃ tail, OffsetTail f.minutes f.seconds tail ∧ s = padded 2 f.hours ++ (tail ++ rest) := by
  obtain ⟨⟨hours, s₁⟩, hhours, heq⟩ := Option.map_eq_some_iff.1 h
  obtain ⟨-, rfl⟩ := (spanFixed_eq_some_iff (by decide)).1 hhours
  simp only at heq
  split at heq
  · cases heq
    exact ⟨rfl, _, .hours, rfl⟩
  · next minutes s₂ hminutes =>
    obtain ⟨-, colon, rfl⟩ := spanColonTwo_eq_some_iff.1 hminutes
    split at heq
    · cases heq
      exact ⟨rfl, _, .minutes colon minutes, rfl⟩
    · next seconds s₃ hseconds =>
      obtain ⟨-, colon', rfl⟩ := spanColonTwo_eq_some_iff.1 hseconds
      cases heq
      exact ⟨rfl, _, .seconds colon colon' minutes seconds, by simp⟩

/-- Fields give an offset if each of them and their sum are in range; the sign counts for the
sum. -/
theorem OffsetFields.toOffset_eq_ok_iff {f : OffsetFields} {text : List Char} {offset : Offset} :
    f.toOffset text = .ok offset ↔
      f.minutes ≤ 59 ∧ f.seconds ≤ 59 ∧ f.hours * 3600 + f.minutes * 60 + f.seconds ≤ maxOffset ∧
        offset = signed f.negative (f.hours * 3600 + f.minutes * 60 + f.seconds) := by
  unfold OffsetFields.toOffset
  constructor
  · intro h
    simp only at h
    split at h
    · cases h
    · next hfields =>
      split at h
      · cases h
      · next hsize =>
        cases h
        exact ⟨by omega, by omega, Nat.le_of_not_lt hsize, rfl⟩
  · rintro ⟨hminutes, hseconds, hsize, rfl⟩
    have hfields : ¬ (59 < f.minutes ∨ 59 < f.seconds) := by omega
    rw [if_neg hfields, if_neg (Nat.not_lt.2 hsize)]

/-- **A text of an offset is cut off whole**, if the text stops behind it. -/
theorem Offset.WrittenAs.span? {offset : Offset} {text : List Char}
    (h : Offset.WrittenAs offset text) (hstops : Stops rest) :
    ∃ f, OffsetFields.span? (text ++ rest) = some (f, rest) ∧
      ∀ text, f.toOffset text = .ok offset := by
  cases h with
  | utc => exact ⟨⟨false, 0, 0, 0⟩, rfl, fun _ => rfl⟩
  | @signed negative hours minutes seconds tail htail hminutes hseconds hsize =>
    have hhours : hours < tenTo 2 := by
      have htwo : tenTo 2 = 100 := rfl
      have hmax : maxOffset = 64800 := rfl
      omega
    have hspan := OffsetFields.spanSigned?_append htail hhours
      (Nat.lt_of_le_of_lt hminutes (by decide)) (Nat.lt_of_le_of_lt hseconds (by decide)) hstops
      negative
    refine ⟨⟨negative, hours, minutes, seconds⟩, ?_, fun _ =>
      OffsetFields.toOffset_eq_ok_iff.2 ⟨hminutes, hseconds, hsize, rfl⟩⟩
    rw [List.cons_append, List.cons_append, List.append_assoc]
    cases negative with
    | true => exact hspan
    | false => exact hspan

/-- **What is cut off as the fields of an offset is one of its texts.** -/
theorem OffsetFields.writtenAs_of_span? {f : OffsetFields} {offset : Offset} {text : List Char}
    (h : OffsetFields.span? s = some (f, rest)) (hf : f.toOffset text = .ok offset) :
    ∃ text, Offset.WrittenAs offset text ∧ s = text ++ rest := by
  obtain ⟨hminutes, hseconds, hsize, rfl⟩ := toOffset_eq_ok_iff.1 hf
  unfold OffsetFields.span? at h
  split at h
  · cases h
    exact ⟨['Z'], .utc, rfl⟩
  · obtain ⟨hnegative, tail, htail, rfl⟩ := spanSigned?_eq_some h
    rw [hnegative]
    exact ⟨_, .signed false htail hminutes hseconds hsize, by simp [signText]⟩
  · obtain ⟨hnegative, tail, htail, rfl⟩ := spanSigned?_eq_some h
    rw [hnegative]
    exact ⟨_, .signed true htail hminutes hseconds hsize, by simp [signText]⟩
  · cases h

/-- Only offsets in range are written. -/
theorem Offset.WrittenAs.inRange {offset : Offset} {text : List Char}
    (h : Offset.WrittenAs offset text) : Offset.InRange offset := by
  cases h with
  | utc => decide
  | signed negative _ _ _ hsize => exact Nat.le_trans (Nat.le_of_eq (natAbs_signed _ _)) hsize

/-- An offset is read from exactly the texts that write it. -/
theorem Offset.read_eq_ok_iff {text : String} {o : Offset} :
    Offset.read text = .ok o ↔ Offset.WrittenAs o text.toList := by
  unfold Offset.read
  constructor
  · intro h
    split at h
    · next f hspan =>
      obtain ⟨text', htext, heq⟩ := OffsetFields.writtenAs_of_span? hspan h
      rwa [heq, List.append_nil]
    · cases h
  · intro h
    obtain ⟨f, hspan, hf⟩ := h.span? stops_nil
    rw [List.append_nil] at hspan
    rw [hspan]
    exact hf _

/-- No text of an offset continues a time of day. -/
theorem Offset.WrittenAs.stops {offset : Offset} {text : List Char}
    (h : Offset.WrittenAs offset text) (rest : List Char) : Stops (text ++ rest) := by
  cases h with
  | utc => exact ⟨by decide, by decide, by decide⟩
  | signed negative =>
    cases negative with
    | true => exact ⟨by decide, by decide, by decide⟩
    | false => exact ⟨by decide, by decide, by decide⟩

/-- A time with an offset is read from exactly the texts that write it. -/
theorem OffsetTime.read_eq_ok_iff {text : String} {t : OffsetTime} :
    OffsetTime.read text = .ok t ↔ t.WrittenAs text.toList := by
  unfold OffsetTime.read
  constructor
  · -- what was read is what was written: time and offset each have their inverse
    intro h
    split at h
    · next f s hspan =>
      split at h
      · next g hspan' =>
        cases hoffset : g.toOffset s with
        | error e => rw [hoffset] at h; cases h
        | ok offset =>
          cases htime : f.toTime with
          | error e => rw [hoffset, htime] at h; cases h
          | ok time =>
            rw [hoffset, htime] at h
            cases h
            obtain ⟨timeText, htimeText, heq⟩ := TimeFields.writtenAs_of_span? hspan htime
            obtain ⟨offsetText, hoffsetText, heq'⟩ :=
              OffsetFields.writtenAs_of_span? hspan' hoffset
            rw [heq, heq', List.append_nil]
            exact ⟨htimeText, hoffsetText⟩
      · cases h
    · cases h
  · intro h
    generalize text.toList = chars at h
    -- what is written is read: the time stops at the offset, which ends the text
    cases h with
    | @mk time offset htime hoffset =>
      obtain ⟨g, hspan, hg⟩ := hoffset.span? stops_nil
      have hstops := hoffset.stops []
      rw [List.append_nil] at hspan hstops
      simp only [htime.span? hstops, hspan, hg, TimeFields.toTime_toFields]
      rfl

/-! ## Date-times -/

/-- A written date-time is cut off as its fields, whatever it stops at. -/
theorem spanDateTime?_append {t : DateTime} {text : List Char} (h : t.WrittenAs text)
    (hstops : Stops rest) :
    spanDateTime? (text ++ rest) = some (t.date.toFields, t.time.toFields, rest) := by
  cases h with
  | @mk separator time hseparator htime =>
    have hspan := htime.span? hstops
    rw [List.append_assoc, List.cons_append]
    simp only [spanDateTime?, DateFields.span?_iso]
    rcases hseparator with rfl | rfl
    · simp only [hspan, Option.map_some]
    · simp only [hspan, Option.map_some]

/-- What is cut off as a date-time in range is one that is written so. -/
theorem writtenAs_of_spanDateTime? {f : DateFields} {g : TimeFields} {t : DateTime}
    (h : spanDateTime? s = some (f, g, rest)) (ht : wallOf f g = .ok t) :
    ∃ text, t.WrittenAs text ∧ s = text ++ rest := by
  cases hdate : f.toDate with
  | error e => rw [wallOf, hdate] at ht; cases ht
  | ok date =>
    cases htime : g.toTime with
    | error e => rw [wallOf, hdate, htime] at ht; cases ht
    | ok time =>
      rw [wallOf, hdate, htime] at ht
      cases ht
      -- both separators are tried, and the rest is the same behind either
      have hbehind : ∀ {f' : DateFields} {separator : Char} {s₁ : List Char},
          IsSeparator separator → DateFields.span? s = some (f', separator :: s₁) →
          (TimeFields.span? s₁).map (fun p => (f', p.1, p.2)) = some (f, g, rest) →
          ∃ text, DateTime.WrittenAs ⟨date, time⟩ text ∧ s = text ++ rest := by
        intro f' separator s₁ hseparator hspan heq
        obtain ⟨⟨g', s₂⟩, hspan', heq⟩ := Option.map_eq_some_iff.1 heq
        cases heq
        obtain ⟨text, htext, rfl⟩ := TimeFields.writtenAs_of_span? hspan' htime
        have hs := DateFields.span?_eq_some hspan hdate
        exact ⟨_, ⟨hseparator, htext⟩, by simp [hs]⟩
      unfold spanDateTime? at h
      split at h
      · next hspan => exact hbehind (.inl rfl) hspan h
      · next hspan => exact hbehind (.inr rfl) hspan h
      · cases h

/-- The fields of a date-time are in range. -/
theorem wallOf_toFields (t : DateTime) : wallOf t.date.toFields t.time.toFields = .ok t := by
  rw [wallOf, DateFields.toDate_toFields, TimeFields.toTime_toFields]
  rfl

/-- A date-time is read from exactly the texts that write it. -/
theorem DateTime.read_eq_ok_iff {text : String} {t : DateTime} :
    DateTime.read text = .ok t ↔ t.WrittenAs text.toList := by
  unfold DateTime.read
  constructor
  · intro h
    split at h
    · next f g hspan =>
      obtain ⟨text', htext, heq⟩ := writtenAs_of_spanDateTime? hspan h
      rwa [heq, List.append_nil]
    · cases h
  · intro h
    rw [← List.append_nil text.toList, spanDateTime?_append h stops_nil]
    exact wallOf_toFields t

/-- A date-time with an offset is read from exactly the texts that write it. -/
theorem OffsetDateTime.read_eq_ok_iff {text : String} {t : OffsetDateTime} :
    OffsetDateTime.read text = .ok t ↔ t.WrittenAs text.toList := by
  unfold OffsetDateTime.read
  constructor
  · -- what was read is what was written, up to the end of the text
    intro h
    split at h
    · next f g s hspan =>
      split at h
      · next o hspan' =>
        cases hoffset : o.toOffset s with
        | error e => rw [hoffset] at h; cases h
        | ok offset =>
          cases hwall : wallOf f g with
          | error e => rw [hoffset, hwall] at h; cases h
          | ok wall =>
            rw [hoffset, hwall] at h
            cases h
            obtain ⟨wallText, hwallText, heq⟩ := writtenAs_of_spanDateTime? hspan hwall
            obtain ⟨offsetText, hoffsetText, heq'⟩ :=
              OffsetFields.writtenAs_of_span? hspan' hoffset
            rw [heq, heq', List.append_nil]
            exact ⟨hwallText, hoffsetText⟩
      · cases h
    · cases h
  · intro h
    generalize text.toList = chars at h
    -- what is written is read: the wall clock stops where the offset begins
    cases h with
    | @mk wall offset hwall hoffset =>
      obtain ⟨g, hspan, hg⟩ := hoffset.span? stops_nil
      have hstops := hoffset.stops []
      rw [List.append_nil] at hspan hstops
      simp only [spanDateTime?_append hwall hstops, hspan, hg, wallOf_toFields]
      rfl

/-! ## Renderings

What is rendered is one of the texts of the value: with the seconds always, with six digits of
fraction or none, and with the seconds of an offset only if there are any. -/

/-- A time of day is written by its own rendering, which leaves out a fraction of zero. -/
theorem TimeOfDay.writtenAs_iso (t : TimeOfDay) : t.WrittenAs t.iso := by
  unfold TimeOfDay.iso
  split
  · next hmicrosecond =>
    rw [List.append_nil]
    exact .seconds hmicrosecond
  · have hlength : (padded 6 t.microsecond).length = 6 :=
      length_padded (by decide) t.microsecond_lt
    have hmicrosecond : t.microsecond =
        ofDigits (padded 6 t.microsecond) * 1000000 / tenTo (padded 6 t.microsecond).length := by
      rw [ofDigits_padded, hlength]
      exact (Nat.mul_div_cancel _ (by decide)).symm
    exact .fraction (all_isDigit_padded _ _) (by omega) (by omega) hmicrosecond

/-- An offset in range is written by its own rendering, which leaves out seconds of zero. -/
theorem Offset.writtenAs_iso {offset : Offset} (h : Offset.InRange offset) :
    Offset.WrittenAs offset (Offset.iso offset) := by
  have hfields : offset.natAbs / 3600 * 3600 + offset.natAbs / 60 % 60 * 60 +
      offset.natAbs % 60 = offset.natAbs := by omega
  have hminutes : offset.natAbs / 60 % 60 ≤ 59 := by omega
  have hseconds : offset.natAbs % 60 ≤ 59 := by omega
  have hwritten : ∀ {tail : List Char},
      OffsetTail (offset.natAbs / 60 % 60) (offset.natAbs % 60) tail →
      Offset.WrittenAs offset (signText (decide (offset < 0)) ::
        padded 2 (offset.natAbs / 3600) ++ tail) := by
    intro tail htail
    have hsize : offset.natAbs / 3600 * 3600 + offset.natAbs / 60 % 60 * 60 +
        offset.natAbs % 60 ≤ maxOffset := Nat.le_trans (Nat.le_of_eq hfields) h
    have hsign := Offset.WrittenAs.signed (decide (offset < 0)) htail hminutes hseconds hsize
    rwa [hfields, signed_natAbs] at hsign
  have hsign : Offset.iso offset = signText (decide (offset < 0)) ::
      padded 2 (offset.natAbs / 3600) ++ (':' :: padded 2 (offset.natAbs / 60 % 60) ++
        if offset.natAbs % 60 = 0 then [] else ':' :: padded 2 (offset.natAbs % 60)) := by
    simp [Offset.iso, signText]
  rw [hsign]
  split
  · next hzero =>
    rw [hzero] at hwritten
    simpa [colonText] using hwritten (.minutes true _)
  · simpa [colonText] using hwritten (.seconds true true _ _)

theorem DateTime.writtenAs_isoWith {separator : Char} (h : IsSeparator separator)
    (t : DateTime) : t.WrittenAs (t.isoWith separator) := ⟨h, t.time.writtenAs_iso⟩

theorem OffsetTime.writtenAs_iso {t : OffsetTime} (h : Offset.InRange t.offset) :
    t.WrittenAs t.iso := ⟨t.time.writtenAs_iso, Offset.writtenAs_iso h⟩

/-- The date-time with that separator, followed by its offset. -/
def OffsetDateTime.isoWith (separator : Char) (t : OffsetDateTime) : List Char :=
  t.wall.isoWith separator ++ Offset.iso t.offset

theorem OffsetDateTime.writtenAs_isoWith {separator : Char} (hseparator : IsSeparator separator)
    {t : OffsetDateTime} (h : Offset.InRange t.offset) : t.WrittenAs (t.isoWith separator) :=
  ⟨t.wall.writtenAs_isoWith hseparator, Offset.writtenAs_iso h⟩

end ApiShape.Time
