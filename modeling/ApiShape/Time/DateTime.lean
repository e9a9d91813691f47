import ApiShape.Time.Date

/-!
Times of day to the microsecond, and wall clock date-times with their count of microseconds.
-/

namespace ApiShape.Time

structure TimeOfDay where
  hour : Nat
  minute : Nat
  second : Nat
  microsecond : Nat
  hour_lt : hour < 24 := by decide
  minute_lt : minute < 60 := by decide
  second_lt : second < 60 := by decide
  microsecond_lt : microsecond < 1000000 := by decide
deriving DecidableEq, Repr

namespace TimeOfDay

/-- The time with these parts; the first part out of range is reported. A fraction is at most six
digits long, so its microseconds are in range. -/
def make (hour minute second microsecond : Nat) : Except RangeFault TimeOfDay :=
  if h : hour < 24 then
    if m : minute < 60 then
      if s : second < 60 then
        .ok ⟨hour, minute, second, microsecond % 1000000, h, m, s, Nat.mod_lt _ (by decide)⟩
      else .error .second
    else .error .minute
  else .error .hour

/-- The seconds since midnight. -/
def seconds (t : TimeOfDay) : Nat := t.hour * 3600 + t.minute * 60 + t.second

/-- The microseconds since midnight. -/
def microseconds (t : TimeOfDay) : Nat := t.seconds * 1000000 + t.microsecond

/-- The time that many microseconds after midnight, whole days left out. -/
def ofMicroseconds (n : Nat) : TimeOfDay where
  hour := n / 3600000000 % 24
  minute := n / 60000000 % 60
  second := n / 1000000 % 60
  microsecond := n % 1000000
  hour_lt := Nat.mod_lt _ (by decide)
  minute_lt := Nat.mod_lt _ (by decide)
  second_lt := Nat.mod_lt _ (by decide)
  microsecond_lt := Nat.mod_lt _ (by decide)

end TimeOfDay

/-- A date with a time of day, as a wall clock shows it. -/
structure DateTime where
  date : Date
  time : TimeOfDay
deriving DecidableEq, Repr

namespace DateTime

/-- The microseconds in a day. -/
def dayLength : Nat := 86400000000

/-- The microseconds since the start of the day before the first of January of year 1. -/
def microseconds (t : DateTime) : Nat := t.date.ordinal * dayLength + t.time.microseconds

/-- The date-time with that count of microseconds, if it lies in the years 1 to 9999. -/
def ofMicroseconds? (n : Int) : Option DateTime :=
  if n < 0 then none
  else (Date.ofOrdinal? (n.toNat / dayLength)).map fun date =>
    ⟨date, .ofMicroseconds (n.toNat % dayLength)⟩

/-- The seconds since the start of the day before the first of January of year 1. -/
def seconds (t : DateTime) : Nat := t.date.ordinal * 86400 + t.time.seconds

/-- The count of microseconds at 1970-01-01T00:00:00. -/
def epoch : Nat := 719163 * dayLength

end DateTime

/-- The time difference from UTC in seconds; east is positive. -/
abbrev Offset := Int

namespace DateTime

/-- The UTC wall clock at the moment when a clock with this offset shows `t`. -/
def toUtc? (t : DateTime) (offset : Offset) : Option DateTime :=
  ofMicroseconds? (t.microseconds - offset * 1000000)

end DateTime

/-- A time of day with an offset. -/
structure OffsetTime where
  time : TimeOfDay
  offset : Offset
deriving DecidableEq, Repr

structure OffsetDateTime where
  wall : DateTime
  offset : Offset
deriving DecidableEq, Repr

/-- A moment, given by the UTC wall clock. -/
structure Instant where
  utc : DateTime
deriving DecidableEq, Repr

end ApiShape.Time
