import ApiShape.Time.DateTime

/-!
Time zones. A zone gives the offset of a wall clock time; `fold` chooses the later reading of a
repeated time, and of a skipped time the offset after the jump. The known zones with summer time
follow yearly rules.
-/

namespace ApiShape.Time

/-- A zone: its id and the offset at a wall clock time under either fold. -/
structure Zone where
  id : String
  offsetAt : DateTime → (fold : Bool) → Offset

/-- The zones that a program knows by id. -/
abbrev ZoneDirectory := String → Option Zone

/-- A date-time in a zone or with a fixed offset. `offset` is the one in force, and `foldsDiffer`
tells that the zone has another one at this wall time under the other fold. -/
structure ZonedDateTime where
  wall : DateTime
  zone : Option String
  fold : Bool
  offset : Offset
  foldsDiffer : Bool
deriving DecidableEq, Repr

def Zone.at (z : Zone) (wall : DateTime) (fold : Bool) : ZonedDateTime :=
  { wall, zone := some z.id, fold, offset := z.offsetAt wall fold
    foldsDiffer := z.offsetAt wall fold ≠ z.offsetAt wall (!fold) }

/-! ## Yearly rules -/

/-- A Sunday of a month. -/
inductive Sunday where
  | first
  | second
  | last
deriving DecidableEq, Repr

/-- The ordinal of that Sunday. -/
def Sunday.ordinal (s : Sunday) (year month : Nat) : Nat :=
  let before := Date.daysBeforeYear year + Date.daysBeforeMonth year month
  let finish := before + daysInMonth year month
  match s with
  | .first => before + 7 - before % 7
  | .second => before + 14 - before % 7
  | .last => finish - finish % 7

/-- A yearly change of the clocks: the month and Sunday, and the UTC time in seconds from the
midnight at which that Sunday begins in UTC. -/
structure ClockChange where
  month : Nat
  sunday : Sunday
  utcSeconds : Int

/-- The change has happened by the wall clock. The later of its two wall times counts under fold 0,
the earlier one under fold 1. -/
def ClockChange.isPast (c : ClockChange) (one other : Offset) (wall : DateTime) (fold : Bool) :
    Bool :=
  let utc : Int := c.sunday.ordinal wall.date.year c.month * 86400 + c.utcSeconds
  utc + (if fold then min one other else max one other) ≤ wall.seconds

/-- A zone with one offset for all times. -/
def Zone.fixed (id : String) (offset : Offset) : Zone := ⟨id, fun _ _ => offset⟩

/-- A zone with summer time from the change `start` to the change `stop` of every year; in the south
the summer spans the new year. -/
def Zone.withSummer (id : String) (standard summer : Offset) (start stop : ClockChange) : Zone where
  id := id
  offsetAt wall fold :=
    let started := start.isPast standard summer wall fold
    let stopped := stop.isPast standard summer wall fold
    let isSummer := if start.month < stop.month then started && !stopped else started || !stopped
    if isSummer then summer else standard

/-- Summer from the last Sunday of March to the last of October, both at 01:00 UTC. -/
def Zone.european (id : String) (standard : Offset) : Zone :=
  .withSummer id standard (standard + 3600) ⟨3, .last, 3600⟩ ⟨10, .last, 3600⟩

/-- Summer from the second Sunday of March to the first of November, both at 02:00 local time. -/
def Zone.american (id : String) (standard : Offset) : Zone :=
  .withSummer id standard (standard + 3600) ⟨3, .second, 7200 - standard⟩
    ⟨11, .first, 7200 - (standard + 3600)⟩

/-- Summer from the first Sunday of October, 02:00 local time, to the first of April at the given
local time. -/
def Zone.australian (id : String) (standard summer : Offset) (stopSeconds : Int) : Zone :=
  .withSummer id standard summer ⟨10, .first, 7200 - standard⟩ ⟨4, .first, stopSeconds - summer⟩

/-- The zones known by default. -/
def Zone.wellKnown : List Zone := [
  .fixed "UTC" 0,
  .fixed "Etc/GMT+5" (-18000),
  .fixed "Asia/Kolkata" 19800,
  .fixed "Asia/Tokyo" 32400,
  .fixed "Pacific/Kiritimati" 50400,
  .european "Europe/Paris" 3600,
  .european "Europe/London" 0,
  .american "America/New_York" (-18000),
  .american "America/St_Johns" (-12600),
  .australian "Australia/Sydney" 36000 39600 10800,
  .australian "Australia/Lord_Howe" 37800 39600 7200]

/-- The directory of the zones known by default. -/
def ZoneDirectory.standard : ZoneDirectory := fun id => Zone.wellKnown.find? (·.id == id)

end ApiShape.Time
