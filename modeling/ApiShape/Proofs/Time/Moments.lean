import ApiShape.Proofs.Time.Calendar
import ApiShape.Proofs.Time.Texts

/-!
# The moments that texts denote

An instant is written in one of two grammars: as milliseconds since 1970, or as a date-time with an
offset. `Denotes` says which microsecond a text stands for, without a reader and without the
calendar's search from a count back to a date. `Instant.read_eq_ok_iff` compares the reader with it.
Whole numbers have a text in the first grammar (`epochText_decimal`), date-times in the second.

* **`instant_grammars_agree`** — both grammars give the same instant for the same moment, at every
  offset; milliseconds are accepted exactly if their moment lies in the calendar; and accepted texts
  give equal instants exactly if they denote the same microsecond.
-/

namespace ApiShape.Time

open ApiShape.Number

variable {text : List Char} {n : Int}

/-! ## The milliseconds of a text -/

/-- The text is the number `n` in digits, with a sign or without. -/
def EpochText (n : Int) (text : List Char) : Prop :=
  ∃ negative ds, signedDigits? text = some (negative, ds) ∧ n = signed negative (ofDigits ds)

/-- The decimal text of a number. -/
def decimal (n : Int) : List Char := (if n < 0 then ['-'] else []) ++ digits n.natAbs

theorem spanSign_of_digit {c : Char} {s : List Char} (h : isDigit c = true) :
    spanSign (c :: s) = (false, c :: s) := by
  unfold spanSign
  split
  · next heq =>
    cases heq
    exact absurd h (by decide)
  · next heq =>
    cases heq
    exact absurd h (by decide)
  · rfl

/-- A whole number is read back from its decimal form. -/
theorem signedDigits?_decimal (n : Int) :
    signedDigits? (decimal n) = some (decide (n < 0), digits n.natAbs) := by
  have hdigits : (digits n.natAbs).all isDigit = true :=
    List.all_eq_true.2 fun _ => isDigit_of_mem_digits
  cases hds : digits n.natAbs with
  | nil => exact absurd hds Nat.toDigits_ne_nil
  | cons c ds =>
    rw [hds] at hdigits
    have hc : isDigit c = true := List.all_eq_true.1 hdigits c List.mem_cons_self
    by_cases hnegative : n < 0
    · simp [signedDigits?, decimal, hds, hnegative, spanSign, hdigits]
    · simp [signedDigits?, decimal, hds, hnegative, spanSign_of_digit hc, hdigits]

theorem epochText_decimal (n : Int) : EpochText n (decimal n) :=
  ⟨_, _, signedDigits?_decimal n, by rw [ofDigits_digits, signed_natAbs]⟩

/-- A text counts one number of milliseconds. -/
theorem EpochText.unique {m : Int} (h : EpochText n text) (h' : EpochText m text) : n = m := by
  obtain ⟨_, _, hdigits, rfl⟩ := h
  obtain ⟨_, _, hdigits', rfl⟩ := h'
  rw [hdigits] at hdigits'
  cases hdigits'
  rfl

/-- A text that starts with a digit and does not only hold digits is no whole number. -/
theorem signedDigits?_eq_none {c x : Char} (hc : isDigit c = true) (hx : x ∈ text)
    (hx' : isDigit x = false) : signedDigits? (c :: text) = none := by
  have hall : (c :: text).all isDigit = false := by
    rw [List.all_eq_false]
    exact ⟨x, List.mem_cons_of_mem c hx, by simp [hx']⟩
  simp only [signedDigits?, spanSign_of_digit hc, hall, Bool.and_false, Bool.false_eq_true,
    if_false]

/-- No date-time is written in digits only: its date has hyphens. -/
theorem OffsetDateTime.WrittenAs.signedDigits?_eq_none {t : OffsetDateTime}
    (h : t.WrittenAs text) : signedDigits? text = none := by
  obtain ⟨⟨-, -⟩, -⟩ := h
  have hdigits := all_isDigit_padded 4 t.wall.date.year
  have hlength := length_padded (by decide) t.wall.date.fits.1
  cases hyear : padded 4 t.wall.date.year with
  | nil =>
    rw [hyear] at hlength
    cases hlength
  | cons c ds =>
    have hc : isDigit c = true := List.all_eq_true.1 hdigits c (by simp [hyear])
    have hhyphen : isDigit '-' = false := by decide
    simp only [Date.iso, hyear, List.cons_append]
    exact Time.signedDigits?_eq_none hc (x := '-') (by simp) hhyphen

/-! ## The moment of a text -/

/-- The text stands for that microsecond, counted as date-times are. -/
inductive Denotes (text : List Char) : Int → Prop
  | milliseconds {n : Int} (h : EpochText n text) : Denotes text (DateTime.epoch + n * 1000)
  | wallClock {t : OffsetDateTime} (h : t.WrittenAs text) :
      Denotes text (t.wall.microseconds - t.offset * 1000000)

/-- A text writes one date-time with an offset. -/
theorem OffsetDateTime.WrittenAs.unique {t u : OffsetDateTime} (ht : t.WrittenAs text)
    (hu : u.WrittenAs text) : t = u := by
  have hread : ∀ {v : OffsetDateTime}, v.WrittenAs text →
      OffsetDateTime.read (String.ofList text) = .ok v := by
    intro v hv
    rw [OffsetDateTime.read_eq_ok_iff, String.toList_ofList]
    exact hv
  exact Except.ok.inj ((hread ht).symm.trans (hread hu))

/-- A count of milliseconds denotes the moment so long after the epoch. -/
theorem EpochText.denotes_iff {m : Int} (h : EpochText n text) :
    Denotes text m ↔ m = DateTime.epoch + n * 1000 := by
  constructor
  · intro hm
    cases hm with
    | milliseconds h' => rw [h.unique h']
    | wallClock hwritten =>
      obtain ⟨_, _, hdigits, -⟩ := h
      rw [hwritten.signedDigits?_eq_none] at hdigits
      cases hdigits
  · rintro rfl
    exact .milliseconds h

/-- A date-time with an offset denotes its wall time less the offset. -/
theorem OffsetDateTime.WrittenAs.denotes_iff {t : OffsetDateTime} {m : Int}
    (h : t.WrittenAs text) :
    Denotes text m ↔ m = t.wall.microseconds - t.offset * 1000000 := by
  constructor
  · intro hm
    cases hm with
    | milliseconds hepoch =>
      obtain ⟨_, _, hdigits, -⟩ := hepoch
      rw [h.signedDigits?_eq_none] at hdigits
      cases hdigits
    | wallClock h' => rw [h.unique h']
  · rintro rfl
    exact .wallClock h

/-- **A text denotes one moment at most.** -/
theorem Denotes.unique {m m' : Int} (h : Denotes text m) (h' : Denotes text m') : m = m' := by
  cases h with
  | milliseconds hepoch => exact (hepoch.denotes_iff.1 h').symm
  | wallClock hwritten => exact (hwritten.denotes_iff.1 h').symm

/-! ## The reader -/

/-- Milliseconds give the instant so long after the epoch, if it is in the calendar. -/
theorem Instant.ofEpochMilliseconds?_eq_some_iff {i : Instant} :
    Instant.ofEpochMilliseconds? n = some i ↔
      (i.utc.microseconds : Int) = DateTime.epoch + n * 1000 := by
  rw [Instant.ofEpochMilliseconds?, ← DateTime.ofMicroseconds?_eq_some_iff, Option.map_eq_some_iff]
  constructor
  · rintro ⟨utc, hutc, rfl⟩
    exact hutc
  · intro hutc
    exact ⟨i.utc, hutc, rfl⟩

/-- A date-time with an offset is at the instant of its wall time less the offset, if that is in the
calendar. -/
theorem OffsetDateTime.toInstant_eq_ok_iff {t : OffsetDateTime} {i : Instant} :
    t.toInstant = .ok i ↔
      (i.utc.microseconds : Int) = t.wall.microseconds - t.offset * 1000000 := by
  rw [← DateTime.ofMicroseconds?_eq_some_iff]
  unfold OffsetDateTime.toInstant DateTime.toUtc?
  constructor
  · intro h
    split at h
    · next hutc =>
      cases h
      exact hutc
    · cases h
  · intro h
    rw [h]

/-- **An instant is read from the texts that denote its moment**, up to the length of a number. -/
theorem Instant.read_eq_ok_iff {text : String} {i : Instant} :
    Instant.read text = .ok i ↔ Denotes text.toList i.utc.microseconds ∧
      ∀ negative ds, signedDigits? text.toList = some (negative, ds) → ds.length ≤ maxDigits := by
  unfold Instant.read
  cases hdigits : signedDigits? text.toList with
  | some signedText =>
    obtain ⟨negative, ds⟩ := signedText
    -- a count of milliseconds: only the number of its digits can keep the moment from being read
    have hepoch : EpochText (signed negative (ofDigits ds)) text.toList :=
      ⟨negative, ds, hdigits, rfl⟩
    rw [hepoch.denotes_iff, ← Instant.ofEpochMilliseconds?_eq_some_iff]
    constructor
    · intro h
      simp only at h
      split at h
      · cases h
      · next hlength =>
        split at h
        · next hinstant =>
          cases h
          refine ⟨hinstant, ?_⟩
          rintro negative ds ⟨⟩
          exact Nat.le_of_not_lt hlength
        · cases h
    · rintro ⟨hinstant, hlength⟩
      have hlength := hlength negative ds rfl
      simp only [hinstant, if_neg (Nat.not_lt.2 hlength)]
  | none =>
    constructor
    · -- anything else is a date-time with its offset
      intro h
      cases hread : OffsetDateTime.read text with
      | error e =>
        rw [hread] at h
        cases h
      | ok t =>
        rw [hread] at h
        have hwritten := OffsetDateTime.read_eq_ok_iff.1 hread
        refine ⟨hwritten.denotes_iff.2 (OffsetDateTime.toInstant_eq_ok_iff.1 h), ?_⟩
        rintro negative ds ⟨⟩
    · rintro ⟨hdenotes, -⟩
      generalize hmoment : (i.utc.microseconds : Int) = m at hdenotes
      cases hdenotes with
      -- `Denotes` also covers counts, but this text is none
      | milliseconds hepoch =>
        obtain ⟨_, _, hdigits', -⟩ := hepoch
        rw [hdigits] at hdigits'
        cases hdigits'
      | wallClock hwritten =>
        have hread := OffsetDateTime.read_eq_ok_iff.2 hwritten
        simp only [hread]
        exact OffsetDateTime.toInstant_eq_ok_iff.2 hmoment

theorem Instant.ext_microseconds {i j : Instant} (h : i.utc.microseconds = j.utc.microseconds) :
    i = j := congrArg Instant.mk (DateTime.microseconds_injective h)

/-- **The two grammars of instants agree.** The milliseconds of a text and the date-time at any
offset that shows the same moment are read as the same instant. Milliseconds are accepted, if they
are not too long for a number, exactly if their moment lies in the calendar. An accepted text
denotes one microsecond, and two of them give the same instant exactly if it is the same. -/
theorem instant_grammars_agree :
    (∀ {text : String} {n : Int} {i : Instant} {wall : DateTime} {offset : Offset}
        {separator : Char}, EpochText n text.toList → Instant.read text = .ok i →
      Offset.InRange offset → IsSeparator separator →
      (wall.microseconds : Int) = DateTime.epoch + n * 1000 + offset * 1000000 →
      Instant.read (String.ofList (OffsetDateTime.isoWith separator ⟨wall, offset⟩)) = .ok i) ∧
    (∀ {text : String} {n : Int} {negative : Bool} {ds : List Char},
      signedDigits? text.toList = some (negative, ds) → ds.length ≤ maxDigits →
      n = signed negative (ofDigits ds) →
      ((∃ i, Instant.read text = .ok i) ↔
        DateTime.InCalendar (DateTime.epoch + n * 1000))) ∧
    (∀ {text : String} {i : Instant}, Instant.read text = .ok i →
      ∃ m, Denotes text.toList m ∧ ∀ m', Denotes text.toList m' → m' = m) ∧
    (∀ {text text' : String} {i i' : Instant} {m m' : Int}, Instant.read text = .ok i →
      Instant.read text' = .ok i' → Denotes text.toList m → Denotes text'.toList m' →
      (i = i' ↔ m = m')) := by
  refine ⟨?_, ?_, ?_, ?_⟩
  · intro text n i wall offset separator hepoch hread hrange hseparator hwall
    have hwritten := OffsetDateTime.writtenAs_isoWith hseparator (t := ⟨wall, offset⟩) hrange
    have hmoment := hepoch.denotes_iff.1 (Instant.read_eq_ok_iff.1 hread).1
    rw [Instant.read_eq_ok_iff, String.toList_ofList, hwritten.denotes_iff,
      hwritten.signedDigits?_eq_none]
    refine ⟨?_, ?_⟩
    · simp only [hmoment, hwall]
      omega
    · rintro negative ds ⟨⟩
  · rintro text n negative ds hdigits hlength rfl
    have hepoch : EpochText (signed negative (ofDigits ds)) text.toList :=
      ⟨negative, ds, hdigits, rfl⟩
    rw [← DateTime.exists_microseconds_iff]
    constructor
    · rintro ⟨i, hread⟩
      exact ⟨i.utc, hepoch.denotes_iff.1 (Instant.read_eq_ok_iff.1 hread).1⟩
    · rintro ⟨t, ht⟩
      refine ⟨⟨t⟩, Instant.read_eq_ok_iff.2 ⟨hepoch.denotes_iff.2 ht, ?_⟩⟩
      rw [hdigits]
      rintro _ _ ⟨⟩
      exact hlength
  · intro text i hread
    have hdenotes := (Instant.read_eq_ok_iff.1 hread).1
    exact ⟨_, hdenotes, fun _ h => h.unique hdenotes⟩
  · intro text text' i i' m m' hread hread' hm hm'
    have hi := (Instant.read_eq_ok_iff.1 hread).1.unique hm
    have hi' := (Instant.read_eq_ok_iff.1 hread').1.unique hm'
    constructor
    · rintro rfl
      exact hi.symm.trans hi'
    · rintro rfl
      exact Instant.ext_microseconds (Int.ofNat.inj (hi.trans hi'.symm))

/-- A few milliseconds after the first second of 2024. -/
def secondOf2024 (milliseconds : Nat) (h : milliseconds * 1000 < 1000000 := by decide) : Instant :=
  ⟨⟨⟨2024, 1, 1, by decide⟩,
    { hour := 0, minute := 0, second := 1, microsecond := milliseconds * 1000,
      microsecond_lt := h }⟩⟩

/-- A moment by its milliseconds and by a clock that is 17:59:59 behind and still shows the year
before; the first moment of the calendar; and two moments that are a millisecond apart. -/
theorem instant_grammars_agree_newYear :
    Instant.read (String.ofList (OffsetDateTime.isoWith ' '
      ⟨⟨⟨2023, 12, 31, by decide⟩, { hour := 6, minute := 0, second := 2, microsecond := 5000 }⟩,
        -64799⟩)) = .ok (secondOf2024 5) ∧
    (∃ i, Instant.read "-62135596800000" = .ok i) ∧
    (∃ m, Denotes "1704067201005".toList m) ∧ secondOf2024 5 ≠ secondOf2024 6 := by
  have hdigits : signedDigits? "1704067201005".toList = some (false, "1704067201005".toList) := by
    decide
  have hdigits' : signedDigits? "+1704067201006".toList = some (false, "1704067201006".toList) := by
    decide
  have hfirst : signedDigits? "-62135596800000".toList =
      some (true, "62135596800000".toList) := by decide
  have hepoch : EpochText 1704067201005 "1704067201005".toList := ⟨_, _, hdigits, by decide⟩
  have hepoch' : EpochText 1704067201006 "+1704067201006".toList := ⟨_, _, hdigits', by decide⟩
  have hread : Instant.read "1704067201005" = .ok (secondOf2024 5) := by
    rw [Instant.read_eq_ok_iff, hepoch.denotes_iff, hdigits]
    refine ⟨by decide, ?_⟩
    rintro _ _ ⟨⟩
    decide
  have hread' : Instant.read "+1704067201006" = .ok (secondOf2024 6) := by
    rw [Instant.read_eq_ok_iff, hepoch'.denotes_iff, hdigits']
    refine ⟨by decide, ?_⟩
    rintro _ _ ⟨⟩
    decide
  obtain ⟨hoffset, hcalendar, hdenotes, hsame⟩ := instant_grammars_agree
  refine ⟨hoffset hepoch hread (by decide) (.inr rfl) (by decide), ?_, ?_, ?_⟩
  · exact (hcalendar hfirst (by decide) rfl).2 ⟨by decide, by decide⟩
  · obtain ⟨m, hm, -⟩ := hdenotes hread
    exact ⟨m, hm⟩
  · exact mt (hsame hread hread' (.milliseconds hepoch) (.milliseconds hepoch')).1 (by decide)

end ApiShape.Time
