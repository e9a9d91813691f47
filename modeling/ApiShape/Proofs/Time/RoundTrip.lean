import ApiShape.Proofs.Time.Moments

/-!
# Reading undoes rendering

Each reader accepts every text that its value is rendered as, and reads the value back
(`Undoes`). The renderings are among the texts that a value is written as, so this follows from the
readers' lemmas of the form `read text = .ok a ↔ a.WrittenAs text`. An instant has no text of its
own for every value; it is rendered as a date-time at offset zero, which denotes its moment.

* **`reading_undoes_rendering`** — dates, times, date-times and instants, over the whole calendar,
  to the microsecond and with every offset that is allowed.
-/

namespace ApiShape.Time

open ApiShape.Number

/-- Reading undoes a rendering: the values that are valid are read back from what they are rendered
as, and so is every value that was read. -/
structure Undoes {α : Type} (read : String → Except Fault α) (render : α → List Char)
    (valid : α → Prop) : Prop where
  read_render : ∀ a, valid a → read (String.ofList (render a)) = .ok a
  reread : ∀ text a, read text = .ok a → read (String.ofList (render a)) = .ok a

/-- A reader undoes the rendering as one of the texts that it reads. -/
theorem Undoes.of_writtenAs {α : Type} {read : String → Except Fault α} {render : α → List Char}
    {valid : α → Prop} {written : α → List Char → Prop}
    (hread : ∀ text a, read text = .ok a ↔ written a text.toList)
    (hrender : ∀ a, valid a → written a (render a))
    (hvalid : ∀ a text, written a text → valid a) : Undoes read render valid := by
  have hback : ∀ a, valid a → read (String.ofList (render a)) = .ok a := by
    intro a ha
    rw [hread, String.toList_ofList]
    exact hrender a ha
  exact ⟨hback, fun text a h => hback a (hvalid a _ ((hread text a).1 h))⟩

/-- The form of an instant with that separator: its date-time at offset zero. -/
def Instant.isoWith (separator : Char) (i : Instant) : List Char :=
  OffsetDateTime.isoWith separator ⟨i.utc, 0⟩

theorem Instant.read_isoWith {separator : Char} (h : IsSeparator separator) (i : Instant) :
    Instant.read (String.ofList (i.isoWith separator)) = .ok i := by
  have hzero : Offset.InRange 0 := by decide
  have hwritten := OffsetDateTime.writtenAs_isoWith h (t := ⟨i.utc, 0⟩) hzero
  rw [Instant.read_eq_ok_iff, String.toList_ofList, Instant.isoWith, hwritten.denotes_iff,
    hwritten.signedDigits?_eq_none]
  refine ⟨by simp, ?_⟩
  rintro _ _ ⟨⟩

/-- **Reading undoes rendering**, for values of every type that a text denotes by its fields. -/
theorem reading_undoes_rendering :
    Undoes Date.read Date.iso (fun _ => True) ∧
    Undoes TimeOfDay.read TimeOfDay.iso (fun _ => True) ∧
    Undoes OffsetTime.read OffsetTime.iso (fun t => Offset.InRange t.offset) ∧
    ∀ {separator : Char}, IsSeparator separator →
      Undoes DateTime.read (DateTime.isoWith separator) (fun _ => True) ∧
      Undoes OffsetDateTime.read (OffsetDateTime.isoWith separator)
        (fun t => Offset.InRange t.offset) ∧
      Undoes Instant.read (Instant.isoWith separator) (fun _ => True) := by
  refine ⟨?_, ?_, ?_, ?_⟩
  · -- a date has one text, so the two directions are one equation
    have hback : ∀ d : Date, Date.read (String.ofList d.iso) = .ok d := by
      intro d
      rw [Date.read_eq_ok_iff, String.toList_ofList]
    exact ⟨fun d _ => hback d, fun _ d _ => hback d⟩
  · exact .of_writtenAs (fun _ _ => TimeOfDay.read_eq_ok_iff) (fun t _ => t.writtenAs_iso)
      fun _ _ _ => trivial
  · refine .of_writtenAs (fun _ _ => OffsetTime.read_eq_ok_iff)
      (fun _ => OffsetTime.writtenAs_iso) ?_
    rintro t _ ⟨-, hoffset⟩
    exact hoffset.inRange
  · -- separators matter where a date comes before a time
    intro separator hseparator
    refine ⟨?_, ?_, ?_⟩
    · exact .of_writtenAs (fun _ _ => DateTime.read_eq_ok_iff)
        (fun t _ => t.writtenAs_isoWith hseparator) fun _ _ _ => trivial
    · refine .of_writtenAs (fun _ _ => OffsetDateTime.read_eq_ok_iff)
        (fun _ => OffsetDateTime.writtenAs_isoWith hseparator) ?_
      rintro t _ ⟨-, hoffset⟩
      exact hoffset.inRange
    · exact ⟨fun i _ => i.read_isoWith hseparator, fun _ i _ => i.read_isoWith hseparator⟩

/-- The first day of the calendar, at the offset furthest to the west but a second, with a single
microsecond. -/
theorem reading_undoes_rendering_first :
    OffsetDateTime.read "0001-01-01 00:00:00.000001-17:59:59" =
      .ok ⟨⟨⟨1, 1, 1, by decide⟩, { hour := 0, minute := 0, second := 0, microsecond := 1 }⟩,
        -64799⟩ := by
  obtain ⟨-, -, -, hdateTimes⟩ := reading_undoes_rendering
  obtain ⟨-, hoffset, -⟩ := hdateTimes (show IsSeparator ' ' from .inr rfl)
  have hrender := hoffset.read_render ⟨⟨⟨1, 1, 1, by decide⟩,
    { hour := 0, minute := 0, second := 0, microsecond := 1 }⟩, -64799⟩ (by decide)
  have htext : OffsetDateTime.isoWith ' ' ⟨⟨⟨1, 1, 1, by decide⟩,
      { hour := 0, minute := 0, second := 0, microsecond := 1 }⟩, -64799⟩ =
        "0001-01-01 00:00:00.000001-17:59:59".toList := by decide
  rwa [htext, String.ofList_toList] at hrender

end ApiShape.Time
