/-!
Calendar dates of the proleptic Gregorian calendar in the years 1 to 9999, and their ordinals: the
first of January of year 1 is day 1.
-/

namespace ApiShape.Time

/-- Which part of a date or a time of day is out of its range. -/
inductive RangeFault where
  | year (n : Nat)
  | month
  | day
  | hour
  | minute
  | second
deriving DecidableEq, Repr

/-- The year has 366 days. -/
def isLeapYear (year : Nat) : Bool := year % 4 == 0 && (year % 100 != 0 || year % 400 == 0)

/-- The number of days of a month; months outside 1 to 12 have none. -/
def daysInMonth (year month : Nat) : Nat :=
  match month with
  | 1 | 3 | 5 | 7 | 8 | 10 | 12 => 31
  | 4 | 6 | 9 | 11 => 30
  | 2 => if isLeapYear year then 29 else 28
  | _ => 0

/-- Year, month and day name a day of the calendar. -/
def IsDate (year month day : Nat) : Prop :=
  1 ≤ year ∧ year ≤ 9999 ∧ 1 ≤ month ∧ month ≤ 12 ∧ 1 ≤ day ∧ day ≤ daysInMonth year month

instance (year month day : Nat) : Decidable (IsDate year month day) :=
  inferInstanceAs (Decidable (_ ∧ _))

/-- A calendar date. -/
structure Date where
  year : Nat
  month : Nat
  day : Nat
  isDate : IsDate year month day
deriving DecidableEq, Repr

namespace Date

/-- The date of that year, month and day; the first part out of range is reported. -/
def make (year month day : Nat) : Except RangeFault Date :=
  if h : IsDate year month day then .ok ⟨year, month, day, h⟩
  else if year < 1 ∨ 9999 < year then .error (.year year)
  else if month < 1 ∨ 12 < month then .error .month
  else .error .day

theorem make_of_isDate {y m d : Nat} (h : IsDate y m d) : make y m d = .ok ⟨y, m, d, h⟩ := by
  simp [make, h]

/-- The number of days before the first of January. -/
def daysBeforeYear (year : Nat) : Nat :=
  let past := year - 1
  past * 365 + past / 4 - past / 100 + past / 400

/-- The number of days of the year before the first of the month. -/
def daysBeforeMonth (year : Nat) : Nat → Nat
  | 0 => 0
  | month + 1 => daysBeforeMonth year month + daysInMonth year month

/-- The number of the day, counted from the first day of year 1. -/
def ordinal (d : Date) : Nat := daysBeforeYear d.year + daysBeforeMonth d.year d.month + d.day

/-- The year that holds the day of that ordinal. The estimate by the mean year is off by one at
most. -/
def yearOfOrdinal (n : Nat) : Nat :=
  let estimate := (n - 1) * 400 / 146097 + 1
  if n ≤ daysBeforeYear estimate then estimate - 1
  else if daysBeforeYear (estimate + 1) < n then estimate + 1
  else estimate

/-- The last month from `month` down that starts before the given day of the year. -/
def monthOfDay (year dayOfYear : Nat) : Nat → Nat
  | 0 => 0
  | month + 1 =>
    if daysBeforeMonth year (month + 1) < dayOfYear then month + 1
    else monthOfDay year dayOfYear month

/-- The date of that ordinal, if it lies in the years 1 to 9999. -/
def ofOrdinal? (n : Nat) : Option Date :=
  let year := yearOfOrdinal n
  let dayOfYear := n - daysBeforeYear year
  let month := monthOfDay year dayOfYear 12
  let day := dayOfYear - daysBeforeMonth year month
  if h : IsDate year month day then some ⟨year, month, day, h⟩ else none

end Date

end ApiShape.Time
