import ApiShape.Number.Digits
import ApiShape.Time.Zone

/-!
ISO 8601 texts of dates and times. Seconds are always written, six digits of fraction only when they
are not all zero, and the seconds of an offset only when there are any.
-/

namespace ApiShape.Time

open ApiShape.Number

/-- The form `yyyy-MM-dd`. -/
def Date.iso (d : Date) : List Char :=
  padded 4 d.year ++ '-' :: padded 2 d.month ++ '-' :: padded 2 d.day

/-- The form `HH:mm:ss[.ffffff]`. -/
def TimeOfDay.iso (t : TimeOfDay) : List Char :=
  padded 2 t.hour ++ ':' :: padded 2 t.minute ++ ':' :: padded 2 t.second ++
    if t.microsecond = 0 then [] else '.' :: padded 6 t.microsecond

/-- The date and the time with `separator` between them. -/
def DateTime.isoWith (separator : Char) (t : DateTime) : List Char :=
  t.date.iso ++ separator :: t.time.iso

/-- The form `yyyy-MM-ddTHH:mm:ss[.ffffff]`. -/
def DateTime.iso (t : DateTime) : List Char := t.isoWith 'T'

/-- The form `±HH:mm[:ss]`. -/
def Offset.iso (offset : Offset) : List Char :=
  let n := offset.natAbs
  (if offset < 0 then '-' else '+') :: padded 2 (n / 3600) ++ ':' :: padded 2 (n / 60 % 60) ++
    if n % 60 = 0 then [] else ':' :: padded 2 (n % 60)

/-- The time followed by its offset. -/
def OffsetTime.iso (t : OffsetTime) : List Char := t.time.iso ++ Offset.iso t.offset

def OffsetDateTime.iso (t : OffsetDateTime) : List Char := t.wall.iso ++ Offset.iso t.offset

/-- The UTC date-time followed by a zero offset. -/
def Instant.iso (t : Instant) : List Char := t.utc.iso ++ Offset.iso 0

/-- The date-time followed by the offset in force. -/
def ZonedDateTime.iso (t : ZonedDateTime) : List Char := t.wall.iso ++ Offset.iso t.offset

end ApiShape.Time
