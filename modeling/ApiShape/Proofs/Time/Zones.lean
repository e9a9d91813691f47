import ApiShape.Proofs.Time.Texts

/-!
# Date-times in zones are read back

A date-time in a zone is written as its wall time, the offset in force, and the id of the zone in
brackets (`bracket`). Behind a repeated or a skipped hour the wall time alone has two readings, and
the offset tells them apart; where both readings have one offset, the first of them is as good as
the other.

* `ZonedFields.ofText?_written` — such a text is cut into the fields of its parts, and the zone id
  ends the offset;
* **`ZonedDateTime.read_written`** — the reading chosen for the offset is the one that is read, in
  every spelling of the wall time and the offset;
* `Zone.resolve_offsetAt`, `Zone.resolve_of_ne` — the reading that has the offset is chosen, and the
  first one if no reading has it.

**`ZonedDateTime.read_iso_bracket`** puts them together, for zones whose offsets are arbitrary
functions of the wall time.
-/

namespace ApiShape.Time

open ApiShape.Number

variable {zones : ZoneDirectory} {z : Zone} {id : String} {rest : List Char}

/-! ## Zone ids in brackets -/

/-- The id can stand in brackets: it is not empty and holds no bracket. The ids of the time zone
database are of this form. -/
structure IsZoneId (id : String) : Prop where
  ne_nil : id.toList ≠ []
  opening : '[' ∉ id.toList
  closing : ']' ∉ id.toList

instance : DecidablePred IsZoneId := fun id =>
  decidable_of_iff (id.toList ≠ [] ∧ '[' ∉ id.toList ∧ ']' ∉ id.toList)
    ⟨fun ⟨ne_nil, opening, closing⟩ => ⟨ne_nil, opening, closing⟩,
      fun h => ⟨h.ne_nil, h.opening, h.closing⟩⟩

def bracket (id : String) : List Char := '[' :: (id.toList ++ [']'])

theorem bracketed?_bracket (h : IsZoneId id) : bracketed? (bracket id) = some id.toList := by
  have hinside : ∀ c ∈ id.toList, (decide (c ≠ '[') && decide (c ≠ ']')) = true := by
    intro c hc
    have hopening : c ≠ '[' := fun heq => h.opening (heq ▸ hc)
    have hclosing : c ≠ ']' := fun heq => h.closing (heq ▸ hc)
    simp [hopening, hclosing]
  have hid : (id.toList ++ [']']).takeWhile (fun c => c ≠ '[' && c ≠ ']') = id.toList := by
    rw [List.takeWhile_append_of_pos hinside]
    simp
  have hempty : id.toList.isEmpty = false := by simpa using h.ne_nil
  simp only [bracketed?, bracket, hid, List.drop_left, hempty]
  rfl

/-- A bracket ends a time of day and an offset. -/
theorem stops_bracket (id : String) : Stops (bracket id) := ⟨by decide, by decide, by decide⟩

/-! ## Reading -/

theorem consumed_append (s rest : List Char) : consumed (s ++ rest) rest = s := by
  rw [consumed, List.length_append, Nat.add_sub_cancel, List.take_left]

/-- **A date-time with an offset and a zone is cut into its parts.** -/
theorem ZonedFields.ofText?_written {t : DateTime} {offset : Offset} {wall text : List Char}
    (hwall : t.WrittenAs wall) (hoffset : Offset.WrittenAs offset text) (hid : IsZoneId id) :
    ∃ f, ZonedFields.ofText? (wall ++ (text ++ bracket id)) =
        some ⟨t.date.toFields, t.time.toFields, some (f, text), some id⟩ ∧
      ∀ s, f.toOffset s = .ok offset := by
  obtain ⟨f, hspan, hf⟩ := hoffset.span? (stops_bracket id)
  refine ⟨f, ?_, hf⟩
  have hempty : (bracket id).isEmpty = false := rfl
  simp only [ZonedFields.ofText?, spanDateTime?_append hwall (hoffset.stops (bracket id)), hspan,
    consumed_append, Option.bind_eq_bind, Option.bind_some, hempty, Bool.false_eq_true, if_false,
    bracketed?_bracket hid, String.ofList_toList]
  rfl

/-- **A date-time with an offset and a zone is read as the reading chosen for the offset.** -/
theorem ZonedDateTime.read_written {t : DateTime} {offset : Offset} {wall text : List Char}
    (hzone : zones id = some z) (hid : IsZoneId id) (hwall : t.WrittenAs wall)
    (hoffset : Offset.WrittenAs offset text) :
    ZonedDateTime.read zones (String.ofList (wall ++ (text ++ bracket id))) =
      .ok (z.resolve t (some offset)) := by
  obtain ⟨f, hfields, hf⟩ := ZonedFields.ofText?_written hwall hoffset hid
  have hread : Zone.read zones id = .ok z := by rw [Zone.read, hzone]
  rw [ZonedDateTime.read, String.toList_ofList, hfields]
  simp only [Option.mapM_some, hf, wallOf_toFields, hread]
  rfl

/-! ## Choosing a reading -/

/-- **The reading that has the offset is chosen**; of two that have it, the first. -/
theorem Zone.resolve_offsetAt (z : Zone) (wall : DateTime) (fold : Bool) :
    z.resolve wall (some (z.offsetAt wall fold)) =
      z.at wall (if z.offsetAt wall false = z.offsetAt wall true then false else fold) := by
  by_cases hsame : z.offsetAt wall false = z.offsetAt wall true
  · have hfirst : ¬ (z.offsetAt wall false ≠ z.offsetAt wall fold ∧
        z.offsetAt wall true = z.offsetAt wall fold) := by
      rintro ⟨hne, heq⟩
      exact hne (hsame.trans heq)
    rw [if_pos hsame]
    exact if_neg hfirst
  · rw [if_neg hsame]
    cases fold with
    | true => exact if_pos ⟨hsame, rfl⟩
    | false =>
      apply if_neg
      rintro ⟨hne, -⟩
      exact hne rfl

/-- An offset of neither reading chooses the first one. -/
theorem Zone.resolve_of_ne {wall : DateTime} {offset : Offset}
    (h : ∀ fold, z.offsetAt wall fold ≠ offset) :
    z.resolve wall (some offset) = z.at wall false := by
  apply if_neg
  rintro ⟨-, heq⟩
  exact h true heq

/-- **A date-time in a zone is read back.** Whatever offsets of at most 18 hours the zone has at the
wall time, the rendering is read with the same wall time, zone and offset, and with the same fold,
as far as the folds have different offsets; else with fold 0. With any other offset, however it is
spelled, the wall time and the zone are read with fold 0. -/
theorem ZonedDateTime.read_iso_bracket (hzone : zones z.id = some z) (hid : IsZoneId z.id)
    {wall : DateTime} (hrange : ∀ fold, Offset.InRange (z.offsetAt wall fold)) :
    (∀ fold, ∃ t,
      ZonedDateTime.read zones (String.ofList ((z.at wall fold).iso ++ bracket z.id)) = .ok t ∧
        t.wall = wall ∧ t.zone = some z.id ∧ t.offset = z.offsetAt wall fold ∧
        (z.offsetAt wall false ≠ z.offsetAt wall true → t.fold = fold) ∧
        (z.offsetAt wall false = z.offsetAt wall true → t.fold = false)) ∧
    ∀ (text : String) (offset : Offset), Offset.read text = .ok offset →
      (∀ fold, z.offsetAt wall fold ≠ offset) →
      ∃ t, ZonedDateTime.read zones
          (String.ofList (wall.iso ++ (text.toList ++ bracket z.id))) = .ok t ∧
        t.wall = wall ∧ t.zone = some z.id ∧ t.fold = false := by
  have hwall : wall.WrittenAs wall.iso := wall.writtenAs_isoWith (.inl rfl)
  constructor
  · -- the offset in the text is one of the zone's: it tells the fold, unless both are one
    intro fold
    have hread := read_written hzone hid hwall (Offset.writtenAs_iso (hrange fold))
    rw [Zone.resolve_offsetAt] at hread
    have htext : (z.at wall fold).iso ++ bracket z.id =
        wall.iso ++ (Offset.iso (z.offsetAt wall fold) ++ bracket z.id) := List.append_assoc ..
    refine ⟨_, htext ▸ hread, rfl, rfl, ?_, fun hne => if_neg hne, fun heq => if_pos heq⟩
    show z.offsetAt wall _ = z.offsetAt wall fold
    split
    · next heq => cases fold <;> simp [heq]
    · rfl
  · -- another offset gives way to the zone, and the first fold is taken
    intro text offset hoffset hne
    have hread := read_written hzone hid hwall (Offset.read_eq_ok_iff.1 hoffset)
    rw [Zone.resolve_of_ne hne] at hread
    exact ⟨_, hread, rfl, rfl, rfl⟩

/-- The hour that comes twice when summer time ends. The second time is read back with its fold, and
an offset of neither time is read as the first. -/
theorem ZonedDateTime.read_iso_bracket_paris :
    let paris := Zone.european "Europe/Paris" 3600
    let time : TimeOfDay := { hour := 2, minute := 30, second := 0, microsecond := 0 }
    let wall : DateTime := ⟨⟨2024, 10, 27, by decide⟩, time⟩
    ZoneDirectory.standard paris.id = some paris ∧ IsZoneId paris.id ∧
      (∀ fold, Offset.InRange (paris.offsetAt wall fold)) ∧
      Offset.read "Z" = .ok 0 ∧ (∀ fold, paris.offsetAt wall fold ≠ 0) ∧
      (∃ t, ZonedDateTime.read .standard "2024-10-27T02:30:00+01:00[Europe/Paris]" = .ok t ∧
        t.wall = wall ∧ t.zone = some "Europe/Paris" ∧ t.offset = 3600 ∧ t.fold = true) ∧
      ∃ t, ZonedDateTime.read .standard "2024-10-27T02:30:00Z[Europe/Paris]" = .ok t ∧
        t.wall = wall ∧ t.zone = some "Europe/Paris" ∧ t.fold = false := by
  intro paris time wall
  have hzone : ZoneDirectory.standard paris.id = some paris := by rfl
  have hid : IsZoneId paris.id := by decide
  have hrange : ∀ fold, Offset.InRange (paris.offsetAt wall fold) := by decide +kernel
  have hutc : Offset.read "Z" = .ok 0 := by rfl
  have hneither : ∀ fold, paris.offsetAt wall fold ≠ 0 := by decide +kernel
  have hdiffer : paris.offsetAt wall false ≠ paris.offsetAt wall true := by decide +kernel
  have hwinter : paris.offsetAt wall true = 3600 := by decide +kernel
  obtain ⟨hback, hother⟩ := ZonedDateTime.read_iso_bracket hzone hid hrange
  refine ⟨hzone, hid, hrange, hutc, hneither, ?_, ?_⟩
  · obtain ⟨t, hread, hwall, hzoned, hoffset, hfold, -⟩ := hback true
    have htext : (paris.at wall true).iso ++ bracket paris.id =
        "2024-10-27T02:30:00+01:00[Europe/Paris]".toList := by decide +kernel
    rw [htext, String.ofList_toList] at hread
    exact ⟨t, hread, hwall, hzoned, hoffset.trans hwinter, hfold hdiffer⟩
  · obtain ⟨t, hread, hwall, hzoned, hfold⟩ := hother "Z" 0 hutc hneither
    have htext : wall.iso ++ ("Z".toList ++ bracket paris.id) =
        "2024-10-27T02:30:00Z[Europe/Paris]".toList := by decide +kernel
    rw [htext, String.ofList_toList] at hread
    exact ⟨t, hread, hwall, hzoned, hfold⟩

end ApiShape.Time
