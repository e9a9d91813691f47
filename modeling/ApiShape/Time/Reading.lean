import ApiShape.Number.Integer
import ApiShape.Time.Zone

/-!
Reading dates and times. Each form is cut into its number fields first; only then are the offset,
the ranges of the fields and the zone judged, in that order.
-/

namespace ApiShape.Time

open ApiShape.Number

/-- The forms of text that are read here. -/
inductive Form where
  | date
  | localTime
  | offsetTime
  | localDateTime
  | offsetDateTime
  | zonedDateTime
deriving DecidableEq, Repr

/-- Why a text denotes no date or time. -/
inductive Fault where
  | malformed (text : String) (form : Form)
  | outOfRange (fault : RangeFault)
  | malformedOffset (text : String)
  | offsetTooLarge (text : String)
  | unknownZone (id : String)
  | neitherOffsetNorZone (text : String)
  | epochOutOfRange (text : String)
  | tooManyDigits (count : Nat)
  | beyondCalendar
deriving DecidableEq, Repr

/-! ## Fields -/

/-- The number in exactly `count` digits at the head of a text. -/
def spanFixed (count : Nat) (s : List Char) : Option (Nat × List Char) :=
  let ds := s.take count
  if ds.length = count ∧ ds.all isDigit then some (ofDigits ds, s.drop count) else none

structure DateFields where
  year : Nat
  month : Nat
  day : Nat
deriving DecidableEq, Repr

/-- The fields `yyyy-MM-dd` at the head of a text. -/
def DateFields.span? (s : List Char) : Option (DateFields × List Char) :=
  match spanFixed 4 s with
  | some (year, '-' :: s) =>
    match spanFixed 2 s with
    | some (month, '-' :: s) => (spanFixed 2 s).map fun (day, s) => (⟨year, month, day⟩, s)
    | _ => none
  | _ => none

/-- The fields of a time of day, the fraction in microseconds. -/
structure TimeFields where
  hour : Nat
  minute : Nat
  second : Nat
  microsecond : Nat
deriving DecidableEq, Repr

/-- The microseconds of up to nine digits of fraction; digits past the sixth are cut off. -/
def microsecondsOf (fraction : List Char) : Nat :=
  ofDigits ((fraction ++ List.replicate (9 - fraction.length) '0').take 6)

/-- A fraction of one to nine digits at the head of a text, in microseconds; zero without one. -/
def spanFraction (s : List Char) : Nat × List Char :=
  match s with
  | '.' :: rest =>
    let fraction := (rest.take 9).takeWhile isDigit
    if fraction.isEmpty then (0, s) else (microsecondsOf fraction, rest.drop fraction.length)
  | _ => (0, s)

/-- The fields `HH:mm[:ss[.fraction]]` at the head of a text. -/
def TimeFields.span? (s : List Char) : Option (TimeFields × List Char) :=
  match spanFixed 2 s with
  | some (hour, ':' :: s) =>
    match spanFixed 2 s with
    | some (minute, s) =>
      match s with
      | ':' :: rest =>
        match spanFixed 2 rest with
        | some (second, rest) =>
          let (micros, rest) := spanFraction rest
          some (⟨hour, minute, second, micros⟩, rest)
        | none => some (⟨hour, minute, 0, 0⟩, s)
      | _ => some (⟨hour, minute, 0, 0⟩, s)
    | none => none
  | _ => none

structure OffsetFields where
  negative : Bool
  hours : Nat
  minutes : Nat
  seconds : Nat
deriving DecidableEq, Repr

/-- Two digits behind an optional colon at the head of a text. -/
def spanColonTwo (s : List Char) : Option (Nat × List Char) :=
  match s with
  | ':' :: rest => spanFixed 2 rest
  | _ => spanFixed 2 s

/-- The fields of a sign with `HH[[:]mm[[:]ss]]` at the head of a text. -/
def OffsetFields.spanSigned? (negative : Bool) (s : List Char) :
    Option (OffsetFields × List Char) :=
  (spanFixed 2 s).map fun (hours, s) =>
    match spanColonTwo s with
    | none => (⟨negative, hours, 0, 0⟩, s)
    | some (minutes, s) =>
      match spanColonTwo s with
      | none => (⟨negative, hours, minutes, 0⟩, s)
      | some (seconds, s) => (⟨negative, hours, minutes, seconds⟩, s)

/-- The fields of `Z` or of a signed offset at the head of a text. -/
def OffsetFields.span? : List Char → Option (OffsetFields × List Char)
  | 'Z' :: rest => some (⟨false, 0, 0, 0⟩, rest)
  | '+' :: rest => spanSigned? false rest
  | '-' :: rest => spanSigned? true rest
  | _ => none

/-- A date, a `T` or a blank, and a time at the head of a text. -/
def spanDateTime? (s : List Char) : Option (DateFields × TimeFields × List Char) :=
  match DateFields.span? s with
  | some (date, 'T' :: s) | some (date, ' ' :: s) =>
    (TimeFields.span? s).map fun (time, s) => (date, time, s)
  | _ => none

/-! ## Values -/

def DateFields.toDate (f : DateFields) : Except Fault Date :=
  (Date.make f.year f.month f.day).mapError .outOfRange

def TimeFields.toTime (f : TimeFields) : Except Fault TimeOfDay :=
  (TimeOfDay.make f.hour f.minute f.second f.microsecond).mapError .outOfRange

def wallOf (date : DateFields) (time : TimeFields) : Except Fault DateTime := do
  let date ← date.toDate
  let time ← time.toTime
  return ⟨date, time⟩

/-- The largest offset, 18 hours. -/
def maxOffset : Nat := 64800

def OffsetFields.toOffset (f : OffsetFields) (text : List Char) : Except Fault Offset :=
  let size := f.hours * 3600 + f.minutes * 60 + f.seconds
  if 59 < f.minutes ∨ 59 < f.seconds then .error (.malformedOffset (String.ofList text))
  else if maxOffset < size then .error (.offsetTooLarge (String.ofList text))
  else .ok (signed f.negative size)

/-- The part of `s` before its end `rest`. -/
def consumed (s rest : List Char) : List Char := s.take (s.length - rest.length)

/-! ## Readers -/

/-- Reads `Z`, `±HH`, `±HH[:]mm` or `±HH[:]mm[:]ss` within 18 hours of UTC. -/
def Offset.read (text : String) : Except Fault Offset :=
  match OffsetFields.span? text.toList with
  | some (fields, []) => fields.toOffset text.toList
  | _ => .error (.malformedOffset text)

/-- Reads `yyyy-MM-dd`. -/
def Date.read (text : String) : Except Fault Date :=
  match DateFields.span? text.toList with
  | some (fields, []) => fields.toDate
  | _ => .error (.malformed text .date)

/-- Reads `HH:mm[:ss[.fraction]]`. -/
def TimeOfDay.read (text : String) : Except Fault TimeOfDay :=
  match TimeFields.span? text.toList with
  | some (fields, []) => fields.toTime
  | _ => .error (.malformed text .localTime)

def OffsetTime.read (text : String) : Except Fault OffsetTime :=
  match TimeFields.span? text.toList with
  | some (time, s) =>
    match OffsetFields.span? s with
    | some (offset, []) => do
      let offset ← offset.toOffset s
      return ⟨← time.toTime, offset⟩
    | _ => .error (.malformed text .offsetTime)
  | none => .error (.malformed text .offsetTime)

/-- Reads a date, a `T` or a blank, and a time. -/
def DateTime.read (text : String) : Except Fault DateTime :=
  match spanDateTime? text.toList with
  | some (date, time, []) => wallOf date time
  | _ => .error (.malformed text .localDateTime)

def OffsetDateTime.read (text : String) : Except Fault OffsetDateTime :=
  match spanDateTime? text.toList with
  | some (date, time, s) =>
    match OffsetFields.span? s with
    | some (offset, []) => do
      let offset ← offset.toOffset s
      return ⟨← wallOf date time, offset⟩
    | _ => .error (.malformed text .offsetDateTime)
  | none => .error (.malformed text .offsetDateTime)

/-- The parts of a zoned date-time text; the offset with the text it was read from. -/
structure ZonedFields where
  date : DateFields
  time : TimeFields
  offset : Option (OffsetFields × List Char)
  zone : Option String
deriving DecidableEq, Repr

/-- A zone id in brackets that is the whole text: the id is not empty and holds no bracket. -/
def bracketed? : List Char → Option (List Char)
  | '[' :: rest =>
    let id := rest.takeWhile fun c => c ≠ '[' && c ≠ ']'
    if !id.isEmpty && rest.drop id.length == [']'] then some id else none
  | _ => none

/-- The parts of a date-time, an optional offset and an optional zone id in brackets. -/
def ZonedFields.ofText? (s : List Char) : Option ZonedFields := do
  let (date, time, s) ← spanDateTime? s
  let (offset, rest) := match OffsetFields.span? s with
    | some (fields, rest) => (some (fields, consumed s rest), rest)
    | none => (none, s)
  if rest.isEmpty then return ⟨date, time, offset, none⟩
  let id ← bracketed? rest
  return ⟨date, time, offset, some (String.ofList id)⟩

/-- The wall time in the zone: with the later reading if only that one has the given offset. -/
def Zone.resolve (z : Zone) (wall : DateTime) (offset : Option Offset) : ZonedDateTime :=
  match offset with
  | none => z.at wall false
  | some o =>
    if z.offsetAt wall false ≠ o ∧ z.offsetAt wall true = o then z.at wall true else z.at wall false

/-- Finds the zone of that id. -/
def Zone.read (zones : ZoneDirectory) (id : String) : Except Fault Zone :=
  match zones id with
  | some zone => .ok zone
  | none => .error (.unknownZone id)

/-- Reads a date-time with an offset, a zone id in brackets, or both. With both, the zone counts and
the offset only chooses between the readings of a repeated or skipped time. -/
def ZonedDateTime.read (zones : ZoneDirectory) (text : String) : Except Fault ZonedDateTime :=
  match ZonedFields.ofText? text.toList with
  | none => .error (.malformed text .zonedDateTime)
  | some ⟨_, _, none, none⟩ => .error (.neitherOffsetNorZone text)
  | some ⟨date, time, some (fields, offsetText), none⟩ => do
    let offset ← fields.toOffset offsetText
    let wall ← wallOf date time
    return ⟨wall, none, false, offset, false⟩
  | some ⟨date, time, offset, some id⟩ => do
    let offset ← offset.mapM fun (fields, offsetText) => fields.toOffset offsetText
    let wall ← wallOf date time
    return (← Zone.read zones id).resolve wall offset

/-- The instant that many milliseconds after 1970-01-01T00:00:00Z. -/
def Instant.ofEpochMilliseconds? (n : Int) : Option Instant :=
  (DateTime.ofMicroseconds? (DateTime.epoch + n * 1000)).map Instant.mk

def OffsetDateTime.toInstant (t : OffsetDateTime) : Except Fault Instant :=
  match t.wall.toUtc? t.offset with
  | some utc => .ok ⟨utc⟩
  | none => .error .beyondCalendar

/-- Reads epoch milliseconds or an offset date-time. -/
def Instant.read (text : String) : Except Fault Instant :=
  match signedDigits? text.toList with
  | some (negative, ds) =>
    if maxDigits < ds.length then .error (.tooManyDigits ds.length)
    else match Instant.ofEpochMilliseconds? (signed negative (ofDigits ds)) with
      | some instant => .ok instant
      | none => .error (.epochOutOfRange text)
  | none => do (← OffsetDateTime.read text).toInstant

end ApiShape.Time
