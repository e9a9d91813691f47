import ApiShape.Proofs.Time.Texts

/-!
# The grammars of dates, times and offsets

A grammar says how the fields of a value are written, which fields are in range, and which value
they denote (`Grammar`). Fields are numerals of ASCII digits (`Numeral`). Unlike `WrittenAs`, which
starts from a value, a grammar also describes texts that are well formed and denote nothing, such as
the thirtieth of February.

The texts of a value are described by its grammar (`Grammar.Describes`): a numeral is its number
padded to the width (`Numeral.eq_padded`), so each production is one of the forms of `WrittenAs`. A
grammar followed by that of offsets describes the texts one after the other
(`describes_withOffset`).

* **`readers_follow_grammar`** — each reader accepts exactly the texts of its grammar whose fields
  are in range, and reads the value that they denote.
-/

namespace ApiShape.Time

open ApiShape.Number

variable {Fields Value : Type} {count n : Nat} {s : List Char}

/-! ## Numerals -/

/-- The text is the number `n` in exactly `count` ASCII digits. -/
structure Numeral (count n : Nat) (text : List Char) : Prop where
  digits : ∀ c ∈ text, '0' ≤ c ∧ c ≤ '9'
  length : text.length = count
  value : ofDigits text = n

/-- ASCII digits are what a reader takes for digits. -/
theorem all_isDigit_iff : s.all isDigit = true ↔ ∀ c ∈ s, '0' ≤ c ∧ c ≤ '9' := by
  rw [List.all_eq_true]
  exact forall₂_congr fun c _ => isDigit_iff c

/-- **A numeral is its number, padded to the width.** -/
theorem Numeral.eq_padded (hcount : 0 < count) (h : Numeral count n s) : s = padded count n := by
  have hne : s ≠ [] := by
    apply List.ne_nil_of_length_pos
    rw [h.length]
    exact hcount
  rw [← h.value, ← h.length]
  exact (padded_ofDigits hne (all_isDigit_iff.2 h.digits)).symm

/-- A padded number is a numeral of the width. -/
theorem numeral_padded (hcount : 0 < count) (h : n < tenTo count) :
    Numeral count n (padded count n) where
  digits := all_isDigit_iff.1 (all_isDigit_padded count n)
  length := length_padded hcount h
  value := ofDigits_padded count n

theorem Numeral.two_eq (h : Numeral 2 n s) : s = padded 2 n := h.eq_padded (by decide)

/-! ## Productions -/

/-- The form `yyyy-MM-dd`. -/
inductive DateFields.Text : DateFields → List Char → Prop
  | mk {year month day : Nat} {y m d : List Char} (hyear : Numeral 4 year y)
      (hmonth : Numeral 2 month m) (hday : Numeral 2 day d) :
      DateFields.Text ⟨year, month, day⟩ (y ++ '-' :: m ++ '-' :: d)

/-- The form `HH:mm[:ss[.fraction]]` with one to nine digits of fraction. The microseconds are the
fraction of a second, cut off below. -/
inductive TimeFields.Text : TimeFields → List Char → Prop
  | minutes {hour minute : Nat} {h m : List Char} (hhour : Numeral 2 hour h)
      (hminute : Numeral 2 minute m) :
      TimeFields.Text ⟨hour, minute, 0, 0⟩ (h ++ ':' :: m)
  | seconds {hour minute second : Nat} {h m s : List Char} (hhour : Numeral 2 hour h)
      (hminute : Numeral 2 minute m) (hsecond : Numeral 2 second s) :
      TimeFields.Text ⟨hour, minute, second, 0⟩ (h ++ ':' :: m ++ ':' :: s)
  | fraction {hour minute second count fraction : Nat} {h m s ds : List Char}
      (hhour : Numeral 2 hour h) (hminute : Numeral 2 minute m) (hsecond : Numeral 2 second s)
      (hfraction : Numeral count fraction ds) (hpos : 1 ≤ count) (hcount : count ≤ 9) :
      TimeFields.Text ⟨hour, minute, second, fraction * 1000000 / tenTo count⟩
        (h ++ ':' :: m ++ ':' :: s ++ '.' :: ds)

/-- The form `Z`, or a sign with `HH[[:]mm[[:]ss]]`. -/
inductive OffsetFields.Text : OffsetFields → List Char → Prop
  | utc : OffsetFields.Text ⟨false, 0, 0, 0⟩ ['Z']
  | hours (negative : Bool) {hours : Nat} {h : List Char} (hhours : Numeral 2 hours h) :
      OffsetFields.Text ⟨negative, hours, 0, 0⟩ (signText negative :: h)
  | minutes (negative colon : Bool) {hours minutes : Nat} {h m : List Char}
      (hhours : Numeral 2 hours h) (hminutes : Numeral 2 minutes m) :
      OffsetFields.Text ⟨negative, hours, minutes, 0⟩
        (signText negative :: h ++ (colonText colon ++ m))
  | seconds (negative colon colon' : Bool) {hours minutes seconds : Nat} {h m s : List Char}
      (hhours : Numeral 2 hours h) (hminutes : Numeral 2 minutes m)
      (hseconds : Numeral 2 seconds s) :
      OffsetFields.Text ⟨negative, hours, minutes, seconds⟩
        (signText negative :: h ++ (colonText colon ++ m ++ (colonText colon' ++ s)))

/-! ## Grammars -/

/-- The texts in which fields are written, the fields that are in range, and the value that fields
denote. -/
structure Grammar (Fields Value : Type) where
  text : Fields → List Char → Prop
  inRange : Fields → Prop
  denotes : Fields → Value → Prop

namespace Grammar

/-- Dates of the Gregorian calendar in the years 1 to 9999. -/
def date : Grammar DateFields Date where
  text := DateFields.Text
  inRange f := IsDate f.year f.month f.day
  denotes f d := d.year = f.year ∧ d.month = f.month ∧ d.day = f.day

def time : Grammar TimeFields TimeOfDay where
  text := TimeFields.Text
  inRange f := f.hour ≤ 23 ∧ f.minute ≤ 59 ∧ f.second ≤ 59
  denotes f t := t.hour = f.hour ∧ t.minute = f.minute ∧ t.second = f.second ∧
    t.microsecond = f.microsecond

/-- Offsets of at most 18 hours to either side. The sign is that of the hours, the minutes and the
seconds. -/
def offset : Grammar OffsetFields Offset where
  text := OffsetFields.Text
  inRange f := f.minutes ≤ 59 ∧ f.seconds ≤ 59 ∧
    f.hours * 3600 + f.minutes * 60 + f.seconds ≤ 18 * 3600
  denotes f o := o = signed f.negative f.hours * 3600 + signed f.negative f.minutes * 60 +
    signed f.negative f.seconds

/-- A date and a time with one separator between them. -/
def dateTime : Grammar (DateFields × TimeFields) DateTime where
  text f s := ∃ d separator t, date.text f.1 d ∧ IsSeparator separator ∧ time.text f.2 t ∧
    s = d ++ separator :: t
  inRange f := date.inRange f.1 ∧ time.inRange f.2
  denotes f t := date.denotes f.1 t.date ∧ time.denotes f.2 t.time

/-- The texts of a grammar with an offset behind them. -/
def withOffset {Whole : Type} (g : Grammar Fields Value) (parts : Whole → Value × Offset) :
    Grammar (Fields × OffsetFields) Whole where
  text f s := ∃ t o, g.text f.1 t ∧ offset.text f.2 o ∧ s = t ++ o
  inRange f := g.inRange f.1 ∧ offset.inRange f.2
  denotes f v := g.denotes f.1 (parts v).1 ∧ offset.denotes f.2 (parts v).2

def offsetTime : Grammar (TimeFields × OffsetFields) OffsetTime :=
  time.withOffset fun t => (t.time, t.offset)

def offsetDateTime : Grammar ((DateFields × TimeFields) × OffsetFields) OffsetDateTime :=
  dateTime.withOffset fun t => (t.wall, t.offset)

/-- A text is one of a value exactly if fields in range that are written so denote the value. -/
def Describes (g : Grammar Fields Value) (written : Value → List Char → Prop) : Prop :=
  ∀ a s, written a s ↔ ∃ f, g.text f s ∧ g.inRange f ∧ g.denotes f a

/-- Fields in range that are written in some text denote a value. -/
def IsTotal (g : Grammar Fields Value) : Prop :=
  ∀ f s, g.text f s → g.inRange f → ∃ a, g.denotes f a

/-- The reader accepts exactly the texts of the grammar whose fields are in range, and reads exactly
the value that they denote. -/
structure Reads (g : Grammar Fields Value) (read : String → Except Fault Value) : Prop where
  accepts : ∀ text, (∃ a, read text = .ok a) ↔ ∃ f, g.text f text.toList ∧ g.inRange f
  value : ∀ text a, read text = .ok a ↔
    ∃ f, g.text f text.toList ∧ g.inRange f ∧ g.denotes f a

/-- A reader of the texts that a value is written as reads the grammar that describes them. -/
theorem Describes.reads {g : Grammar Fields Value} {written : Value → List Char → Prop}
    {read : String → Except Fault Value} (h : g.Describes written) (htotal : g.IsTotal)
    (hread : ∀ {text a}, read text = .ok a ↔ written a text.toList) : g.Reads read := by
  have hvalue : ∀ text a, read text = .ok a ↔
      ∃ f, g.text f text.toList ∧ g.inRange f ∧ g.denotes f a := by
    intro text a
    rw [hread]
    exact h a text.toList
  refine ⟨fun text => ⟨?_, ?_⟩, hvalue⟩
  · rintro ⟨a, ha⟩
    obtain ⟨f, htext, hrange, -⟩ := (hvalue text a).1 ha
    exact ⟨f, htext, hrange⟩
  · rintro ⟨f, htext, hrange⟩
    obtain ⟨a, ha⟩ := htotal f _ htext hrange
    exact ⟨a, (hvalue text a).2 ⟨f, htext, hrange, ha⟩⟩

/-! ## Dates -/

/-- The grammar of dates describes what dates are written as. -/
theorem describes_date : date.Describes fun d s => s = d.iso := by
  intro d s
  constructor
  · rintro rfl
    obtain ⟨hyear, hmonth, hday⟩ := d.fits
    have htext : DateFields.Text d.toFields d.iso := .mk (numeral_padded (by decide) hyear)
      (numeral_padded (by decide) hmonth) (numeral_padded (by decide) hday)
    exact ⟨d.toFields, htext, d.isDate, rfl, rfl, rfl⟩
  · rintro ⟨_, htext, -, hy, hm, hd⟩
    cases htext with
    | mk hyear hmonth hday =>
      rw [Date.iso, hy, hm, hd, hyear.eq_padded (by decide), hmonth.two_eq, hday.two_eq]

theorem isTotal_date : date.IsTotal := fun f _ _ hrange =>
  ⟨⟨f.year, f.month, f.day, hrange⟩, rfl, rfl, rfl⟩

/-! ## Times of day -/

/-- The grammar of times describes what times of day are written as. -/
theorem describes_time : time.Describes TimeOfDay.WrittenAs := by
  intro t s
  obtain ⟨hhour, hminute, hsecond⟩ := t.fits
  have hrange : time.inRange t.toFields :=
    ⟨Nat.le_of_lt_succ t.hour_lt, Nat.le_of_lt_succ t.minute_lt, Nat.le_of_lt_succ t.second_lt⟩
  have htwo : 0 < 2 := by decide
  constructor
  · intro h
    -- whatever form the time has, its fields are those of the time
    refine ⟨t.toFields, ?_, hrange, rfl, rfl, rfl, rfl⟩
    show TimeFields.Text ⟨t.hour, t.minute, t.second, t.microsecond⟩ s
    cases h with
    | minutes hs hm =>
      rw [hs, hm]
      exact .minutes (numeral_padded htwo hhour) (numeral_padded htwo hminute)
    | seconds hm =>
      rw [hm]
      exact .seconds (numeral_padded htwo hhour) (numeral_padded htwo hminute)
        (numeral_padded htwo hsecond)
    | fraction hdigits hpos hlength hm =>
      rw [hm]
      exact .fraction (numeral_padded htwo hhour) (numeral_padded htwo hminute)
        (numeral_padded htwo hsecond) ⟨all_isDigit_iff.1 hdigits, rfl, rfl⟩ hpos hlength
  · rintro ⟨_, htext, -, hh, hm, hs, hmicrosecond⟩
    cases htext with
    | minutes hhour' hminute' =>
      dsimp only at hh hm hs hmicrosecond
      rw [hhour'.two_eq, hminute'.two_eq, ← hh, ← hm]
      exact .minutes hs hmicrosecond
    | seconds hhour' hminute' hsecond' =>
      dsimp only at hh hm hs hmicrosecond
      rw [hhour'.two_eq, hminute'.two_eq, hsecond'.two_eq, ← hh, ← hm, ← hs]
      exact .seconds hmicrosecond
    | fraction hhour' hminute' hsecond' hfraction hpos hcount =>
      dsimp only at hh hm hs hmicrosecond
      rw [hhour'.two_eq, hminute'.two_eq, hsecond'.two_eq, ← hh, ← hm, ← hs]
      obtain ⟨hdigits, rfl, rfl⟩ := hfraction
      exact .fraction (all_isDigit_iff.2 hdigits) hpos hcount hmicrosecond

/-- The fields of a time are less than a second short of the next one. -/
theorem microsecond_lt {f : TimeFields} (h : f.Text s) : f.microsecond < 1000000 := by
  cases h with
  | minutes => exact Nat.zero_lt_succ _
  | seconds => exact Nat.zero_lt_succ _
  | fraction _ _ _ hfraction _ hcount =>
    obtain ⟨hdigits, rfl, rfl⟩ := hfraction
    have hdigits := all_isDigit_iff.2 hdigits
    have hlt := microsecondsOf_lt hdigits hcount
    rwa [microsecondsOf_eq hdigits hcount] at hlt

theorem isTotal_time : time.IsTotal := fun f _ htext hrange =>
  ⟨⟨f.hour, f.minute, f.second, f.microsecond, Nat.lt_succ_of_le hrange.1,
    Nat.lt_succ_of_le hrange.2.1, Nat.lt_succ_of_le hrange.2.2, microsecond_lt htext⟩,
    rfl, rfl, rfl, rfl⟩

/-! ## Offsets -/

/-- The sign of an offset counts for each of its fields. -/
theorem signed_sum (negative : Bool) (hours minutes seconds : Nat) :
    signed negative (hours * 3600 + minutes * 60 + seconds) =
      signed negative hours * 3600 + signed negative minutes * 60 + signed negative seconds := by
  cases negative with
  | true =>
    simp only [signed, if_true]
    omega
  | false =>
    simp only [signed, Bool.false_eq_true, if_false]
    omega

/-- The grammar of offsets describes what offsets are written as. -/
theorem describes_offset : offset.Describes Offset.WrittenAs := by
  intro o s
  have htwo : 0 < 2 := by decide
  constructor
  · -- minutes and seconds are within the hour; hours need the bound on the whole offset
    intro h
    cases h with
    | utc => exact ⟨⟨false, 0, 0, 0⟩, .utc, ⟨by decide, by decide, by decide⟩, rfl⟩
    | @signed negative hours minutes seconds tail htail hminutes hseconds hsize =>
      refine ⟨⟨negative, hours, minutes, seconds⟩, ?_, ⟨hminutes, hseconds, hsize⟩,
        signed_sum negative hours minutes seconds⟩
      have hhours : Numeral 2 hours (padded 2 hours) := by
        apply numeral_padded htwo
        have hmax : maxOffset = 64800 := rfl
        show hours < 100
        omega
      have hfield : ∀ {n}, n ≤ 59 → Numeral 2 n (padded 2 n) := fun hn =>
        numeral_padded htwo (Nat.lt_of_le_of_lt hn (by decide))
      cases htail with
      | hours =>
        rw [List.append_nil]
        exact .hours negative hhours
      | minutes colon => exact .minutes negative colon hhours (hfield hminutes)
      | seconds colon colon' =>
        exact .seconds negative colon colon' hhours (hfield hminutes) (hfield hseconds)
  · -- conversely the bound on the whole is what the reader asks for, after it has read the fields
    rintro ⟨_, htext, ⟨hminutes, hseconds, hsize⟩, rfl⟩
    cases htext with
    | utc => exact .utc
    | hours negative hhours =>
      have hwritten := Offset.WrittenAs.signed negative OffsetTail.hours hminutes hseconds hsize
      rwa [signed_sum, ← hhours.two_eq, List.append_nil] at hwritten
    | minutes negative colon hhours hminutes' =>
      have hwritten :=
        Offset.WrittenAs.signed negative (.minutes colon _) hminutes hseconds hsize
      rwa [signed_sum, ← hhours.two_eq, ← hminutes'.two_eq] at hwritten
    | seconds negative colon colon' hhours hminutes' hseconds' =>
      have hwritten :=
        Offset.WrittenAs.signed negative (.seconds colon colon' _ _) hminutes hseconds hsize
      rwa [signed_sum, ← hhours.two_eq, ← hminutes'.two_eq, ← hseconds'.two_eq] at hwritten

theorem isTotal_offset : offset.IsTotal := fun _ _ _ _ => ⟨_, rfl⟩

/-! ## Values in parts -/

/-- The grammar of date-times describes what date-times are written as. -/
theorem describes_dateTime : dateTime.Describes DateTime.WrittenAs := by
  intro t s
  constructor
  · rintro ⟨hseparator, htime⟩
    obtain ⟨f, hf, hfrange, hfdate⟩ := (describes_date t.date _).1 rfl
    obtain ⟨g, hg, hgrange, hgtime⟩ := (describes_time t.time _).1 htime
    exact ⟨(f, g), ⟨_, _, _, hf, hseparator, hg, rfl⟩, ⟨hfrange, hgrange⟩, hfdate, hgtime⟩
  · rintro ⟨f, ⟨d, separator, u, hd, hseparator, hu, rfl⟩, ⟨hfrange, hgrange⟩, hfdate, hgtime⟩
    have hdate : d = t.date.iso := (describes_date t.date d).2 ⟨f.1, hd, hfrange, hfdate⟩
    have htime : t.time.WrittenAs u := (describes_time t.time u).2 ⟨f.2, hu, hgrange, hgtime⟩
    rw [hdate]
    exact ⟨hseparator, htime⟩

theorem isTotal_dateTime : dateTime.IsTotal := by
  rintro f _ ⟨d, _, t, hd, -, ht, -⟩ ⟨hdate, htime⟩
  obtain ⟨date, hdate⟩ := isTotal_date f.1 d hd hdate
  obtain ⟨time, htime⟩ := isTotal_time f.2 t ht htime
  exact ⟨⟨date, time⟩, hdate, htime⟩

/-- **A grammar with an offset behind it** describes the texts of the value and of the offset, one
after the other. -/
theorem describes_withOffset {Whole : Type} {g : Grammar Fields Value}
    {written : Value → List Char → Prop} (h : g.Describes written)
    (parts : Whole → Value × Offset) :
    (g.withOffset parts).Describes fun v s =>
      ∃ t o, written (parts v).1 t ∧ Offset.WrittenAs (parts v).2 o ∧ s = t ++ o := by
  intro v s
  constructor
  · rintro ⟨t, o, ht, ho, rfl⟩
    obtain ⟨f, hf, hfrange, hfvalue⟩ := (h _ t).1 ht
    obtain ⟨g, hg, hgrange, hgvalue⟩ := (describes_offset _ o).1 ho
    exact ⟨(f, g), ⟨t, o, hf, hg, rfl⟩, ⟨hfrange, hgrange⟩, hfvalue, hgvalue⟩
  · rintro ⟨f, ⟨t, o, ht, ho, rfl⟩, ⟨hfrange, hgrange⟩, hfvalue, hgvalue⟩
    exact ⟨t, o, (h _ t).2 ⟨f.1, ht, hfrange, hfvalue⟩,
      (describes_offset _ o).2 ⟨f.2, ho, hgrange, hgvalue⟩, rfl⟩

/-- With an offset behind it, a total grammar stays total. -/
theorem isTotal_withOffset {Whole : Type} {g : Grammar Fields Value} (h : g.IsTotal)
    {parts : Whole → Value × Offset} (hparts : parts.Surjective) :
    (g.withOffset parts).IsTotal := by
  rintro f _ ⟨t, o, ht, ho, -⟩ ⟨hfrange, hgrange⟩
  obtain ⟨a, ha⟩ := h f.1 t ht hfrange
  obtain ⟨b, hb⟩ := isTotal_offset f.2 o ho hgrange
  obtain ⟨v, hv⟩ := hparts (a, b)
  refine ⟨v, ?_, ?_⟩
  · rwa [hv]
  · rwa [hv]

end Grammar

/-! ## Readers -/

/-- A time with an offset is written as the one before the other. -/
theorem OffsetTime.writtenAs_iff {t : OffsetTime} : t.WrittenAs s ↔
    ∃ u o, t.time.WrittenAs u ∧ Offset.WrittenAs t.offset o ∧ s = u ++ o := by
  constructor
  · rintro ⟨htime, hoffset⟩
    exact ⟨_, _, htime, hoffset, rfl⟩
  · rintro ⟨u, o, htime, hoffset, rfl⟩
    exact ⟨htime, hoffset⟩

/-- A date-time with an offset is written as the one before the other. -/
theorem OffsetDateTime.writtenAs_iff {t : OffsetDateTime} : t.WrittenAs s ↔
    ∃ u o, t.wall.WrittenAs u ∧ Offset.WrittenAs t.offset o ∧ s = u ++ o := by
  constructor
  · rintro ⟨hwall, hoffset⟩
    exact ⟨_, _, hwall, hoffset, rfl⟩
  · rintro ⟨u, o, hwall, hoffset, rfl⟩
    exact ⟨hwall, hoffset⟩

/-- **The readers follow their grammars.** A text is accepted exactly if it is of the form, in ASCII
digits, with its fields in range; the value that is read has exactly the fields that are denoted,
the fraction of a second cut off to microseconds and the offset with its sign. -/
theorem readers_follow_grammar :
    Grammar.date.Reads Date.read ∧ Grammar.time.Reads TimeOfDay.read ∧
    Grammar.offsetTime.Reads OffsetTime.read ∧ Grammar.dateTime.Reads DateTime.read ∧
    Grammar.offsetDateTime.Reads OffsetDateTime.read ∧ Grammar.offset.Reads Offset.read := by
  refine ⟨?_, ?_, ?_, ?_, ?_, ?_⟩
  · exact Grammar.describes_date.reads Grammar.isTotal_date Date.read_eq_ok_iff
  · exact Grammar.describes_time.reads Grammar.isTotal_time TimeOfDay.read_eq_ok_iff
  · have hparts : Function.Surjective fun t : OffsetTime => (t.time, t.offset) :=
      fun p => ⟨⟨p.1, p.2⟩, rfl⟩
    exact (Grammar.describes_withOffset Grammar.describes_time _).reads
      (Grammar.isTotal_withOffset Grammar.isTotal_time hparts)
      (OffsetTime.read_eq_ok_iff.trans OffsetTime.writtenAs_iff)
  · exact Grammar.describes_dateTime.reads Grammar.isTotal_dateTime DateTime.read_eq_ok_iff
  · have hparts : Function.Surjective fun t : OffsetDateTime => (t.wall, t.offset) :=
      fun p => ⟨⟨p.1, p.2⟩, rfl⟩
    exact (Grammar.describes_withOffset Grammar.describes_dateTime _).reads
      (Grammar.isTotal_withOffset Grammar.isTotal_dateTime hparts)
      (OffsetDateTime.read_eq_ok_iff.trans OffsetDateTime.writtenAs_iff)
  · exact Grammar.describes_offset.reads Grammar.isTotal_offset Offset.read_eq_ok_iff

/-- The fraction is cut off, not rounded, and each colon of the offset may be left out. -/
example : OffsetTime.read "12:00:00.9999999-01:3059" =
    .ok ⟨{ hour := 12, minute := 0, second := 0, microsecond := 999999 }, -5459⟩ := by rfl

end ApiShape.Time
