import ApiShape.Fault
import ApiShape.Proofs.Time.Moments

/-!
# How the readers of dates and times fail

A text that is no value should be refused as a value, whatever is wrong with it: its form, a field
out of range, an offset, a zone (`Settled`). What the readers are built from keeps to this, and so
does one step after another (`Settled.bind`), so the readers follow the way they are built.

The one exception is the way of an offset date-time to UTC, `OffsetDateTime.toInstant`, which near
both ends of the calendar may lead out of it.

* **`readers_settle`** — every text is read or refused by every reader, that of instants apart; it
  does so exactly for texts that do not denote a moment outside the calendar.
* `beyond_calendar_overflows` — else it overflows.
-/

namespace ApiShape.Time

open ApiShape.Number

variable {α β : Type}

/-- There is a value, or the text is refused with a fault of the kind of values. -/
def Settled (r : Except Fault α) : Prop :=
  (∃ a, r = .ok a) ∨ ∃ f, r = .error f ∧ (ApiShape.Fault.time f).kind = .value

/-! ## Ways to build a result -/

theorem settled_ok (a : α) : Settled (.ok a) := .inl ⟨a, rfl⟩

theorem settled_error {f : Fault} (h : (ApiShape.Fault.time f).kind = .value) :
    Settled (.error f : Except Fault α) := .inr ⟨f, rfl, h⟩

/-- What goes on from a settled result is settled if every step from a value is. -/
theorem Settled.bind {r : Except Fault α} {next : α → Except Fault β} (h : Settled r)
    (hnext : ∀ a, Settled (next a)) : Settled (r >>= next) := by
  rcases h with ⟨a, rfl⟩ | ⟨f, rfl, hkind⟩
  · exact hnext a
  · exact settled_error hkind

/-- Fields out of range are refused as values. -/
theorem settled_outOfRange (r : Except RangeFault α) : Settled (r.mapError Fault.outOfRange) := by
  cases r with
  | ok a => exact settled_ok a
  | error f => exact settled_error rfl

/-! ## Fields -/

theorem settled_wallOf (date : DateFields) (time : TimeFields) : Settled (wallOf date time) :=
  (settled_outOfRange _).bind fun _ => (settled_outOfRange _).bind fun _ => settled_ok _

/-- Fields out of the range of offsets are refused as values. -/
theorem settled_toOffset (f : OffsetFields) (text : List Char) : Settled (f.toOffset text) := by
  unfold OffsetFields.toOffset
  dsimp only
  split
  · exact settled_error rfl
  · split
    · exact settled_error rfl
    · exact settled_ok _

/-- An unknown zone is refused as a value. -/
theorem settled_zone (zones : ZoneDirectory) (id : String) : Settled (Zone.read zones id) := by
  unfold Zone.read
  split
  · exact settled_ok _
  · exact settled_error rfl

/-! ## Readers -/

theorem settled_date (text : String) : Settled (Date.read text) := by
  unfold Date.read
  split
  · exact settled_outOfRange _
  · exact settled_error rfl

theorem settled_time (text : String) : Settled (TimeOfDay.read text) := by
  unfold TimeOfDay.read
  split
  · exact settled_outOfRange _
  · exact settled_error rfl

theorem settled_offset (text : String) : Settled (Offset.read text) := by
  unfold Offset.read
  split
  · exact settled_toOffset _ _
  · exact settled_error rfl

theorem settled_offsetTime (text : String) : Settled (OffsetTime.read text) := by
  unfold OffsetTime.read
  split
  · split
    · exact (settled_toOffset _ _).bind fun _ => (settled_outOfRange _).bind fun _ => settled_ok _
    · exact settled_error rfl
  · exact settled_error rfl

theorem settled_dateTime (text : String) : Settled (DateTime.read text) := by
  unfold DateTime.read
  split
  · exact settled_wallOf _ _
  · exact settled_error rfl

theorem settled_offsetDateTime (text : String) : Settled (OffsetDateTime.read text) := by
  unfold OffsetDateTime.read
  split
  · split
    · exact (settled_toOffset _ _).bind fun _ => (settled_wallOf _ _).bind fun _ => settled_ok _
    · exact settled_error rfl
  · exact settled_error rfl

/-- A zone may be unknown, and the offset in front of it may be missing. -/
theorem settled_zonedDateTime (zones : ZoneDirectory) (text : String) :
    Settled (ZonedDateTime.read zones text) := by
  unfold ZonedDateTime.read
  split
  · exact settled_error rfl
  · exact settled_error rfl
  · exact (settled_toOffset _ _).bind fun _ => (settled_wallOf _ _).bind fun _ => settled_ok _
  · next offset id _ =>
    have hoffset : Settled (offset.mapM fun fields => fields.1.toOffset fields.2) := by
      cases offset with
      | none => exact settled_ok none
      | some offset => exact (settled_toOffset offset.1 offset.2).bind fun _ => settled_ok _
    exact hoffset.bind fun _ => (settled_wallOf _ _).bind fun _ =>
      (settled_zone zones id).bind fun _ => settled_ok _

/-- **An offset date-time has an instant exactly if its moment lies in the calendar.** -/
theorem settled_toInstant_iff {t : OffsetDateTime} :
    Settled t.toInstant ↔
      DateTime.InCalendar (t.wall.microseconds - t.offset * 1000000) := by
  rw [← DateTime.exists_microseconds_iff]
  constructor
  · rintro (⟨i, hi⟩ | ⟨f, hf, hkind⟩)
    · exact ⟨i.utc, OffsetDateTime.toInstant_eq_ok_iff.1 hi⟩
    · unfold OffsetDateTime.toInstant at hf
      split at hf
      · cases hf
      · cases hf
        cases hkind
  · rintro ⟨utc, hutc⟩
    exact .inl ⟨⟨utc⟩, OffsetDateTime.toInstant_eq_ok_iff.2 hutc⟩

/-- The instant of a text that is an offset date-time. No such text is a whole number. -/
theorem Instant.read_of_offsetDateTime {text : String} {t : OffsetDateTime}
    (h : OffsetDateTime.read text = .ok t) : Instant.read text = t.toInstant := by
  have hdigits := (OffsetDateTime.read_eq_ok_iff.1 h).signedDigits?_eq_none
  simp only [Instant.read, hdigits, h]
  rfl

/-- Milliseconds may be too many digits or out of the calendar, and both is refused. -/
theorem settled_instant_of_error {text : String} {f : Fault}
    (h : OffsetDateTime.read text = .error f) : Settled (Instant.read text) := by
  have hsettled := settled_offsetDateTime text
  unfold Instant.read
  split
  · split
    · exact settled_error rfl
    · split
      · exact settled_ok _
      · exact settled_error rfl
  · rw [h] at hsettled ⊢
    rcases hsettled with ⟨t, ht⟩ | ⟨f, hf, hkind⟩
    · cases ht
    · cases hf
      exact settled_error hkind

/-- **The readers read a text or refuse it as a value**, all but that of instants, which does so
exactly for the texts whose moment, if they are an offset date-time, lies in the calendar. -/
theorem readers_settle (text : String) :
    Settled (Date.read text) ∧ Settled (TimeOfDay.read text) ∧ Settled (OffsetTime.read text) ∧
    Settled (DateTime.read text) ∧ Settled (OffsetDateTime.read text) ∧
    (∀ zones, Settled (ZonedDateTime.read zones text)) ∧ Settled (Offset.read text) ∧
    (Settled (Instant.read text) ↔ ∀ t : OffsetDateTime, t.WrittenAs text.toList →
      DateTime.InCalendar (t.wall.microseconds - t.offset * 1000000)) := by
  refine ⟨settled_date text, settled_time text, settled_offsetTime text, settled_dateTime text,
    settled_offsetDateTime text, fun zones => settled_zonedDateTime zones text,
    settled_offset text, ?_⟩
  -- only an offset date-time can leave the calendar when it is moved to UTC
  cases hread : OffsetDateTime.read text with
  | ok t =>
    have hwritten := OffsetDateTime.read_eq_ok_iff.1 hread
    rw [Instant.read_of_offsetDateTime hread, settled_toInstant_iff]
    constructor
    · intro hcalendar u hu
      rwa [hu.unique hwritten]
    · intro h
      exact h t hwritten
  | error f =>
    refine iff_of_true (settled_instant_of_error hread) fun t hwritten => ?_
    rw [OffsetDateTime.read_eq_ok_iff.2 hwritten] at hread
    cases hread

/-- **The way to UTC overflows.** When the calendar starts at a clock that is 18 hours ahead, the
UTC clock still shows the year before it. -/
theorem beyond_calendar_overflows :
    ¬ Settled (Instant.read "0001-01-01T00:00:00+18:00") ∧
      ∃ f, Instant.read "0001-01-01T00:00:00+18:00" = .error f ∧
        (ApiShape.Fault.time f).kind = .overflow := by
  let first : OffsetDateTime :=
    ⟨⟨⟨1, 1, 1, by decide⟩, { hour := 0, minute := 0, second := 0, microsecond := 0 }⟩, 64800⟩
  have hutc : first.wall.toUtc? first.offset = none := by decide +kernel
  have hinstant : first.toInstant = .error .beyondCalendar := by
    rw [OffsetDateTime.toInstant, hutc]
  have hread : Instant.read "0001-01-01T00:00:00+18:00" = .error .beyondCalendar :=
    (Instant.read_of_offsetDateTime (t := first) (by rfl)).trans hinstant
  rw [hread]
  refine ⟨?_, .beyondCalendar, rfl, rfl⟩
  rintro (⟨i, hi⟩ | ⟨f, hf, hkind⟩)
  · cases hi
  · cases hf
    cases hkind

end ApiShape.Time
