import ApiShape.Time.DateTime

/-!
# The calendar and its counts

A date determines the number of its day and is determined by it, and so do a date-time and its count
of microseconds:

* **`Date.ofOrdinal?_eq_some_iff`** — the date found for a day number is the one that has it;
* **`DateTime.ofMicroseconds?_eq_some_iff`** — the date-time found for a count is the one that has
  it; `DateTime.microseconds_injective` is what follows for two date-times.

Every count in the years 1 to 9999 has its date-time (`DateTime.exists_microseconds_iff`), since
every day has its date (`Date.exists_ordinal_iff`). The year of a day is found by an estimate, which
is right or one too small (`Date.yearOfOrdinal_eq`); the month by a search from the last one down
(`Date.monthOfDay_eq`).
-/

namespace ApiShape.Time

namespace Date

/-! ## Days before years and months -/

/-- Every fourth year is a leap year, centuries aside that are no multiple of four hundred years. -/
theorem isLeapYear_iff (year : Nat) :
    isLeapYear year = true ↔ year % 4 = 0 ∧ (year % 100 ≠ 0 ∨ year % 400 = 0) := by
  simp [isLeapYear]

theorem daysBeforeMonth_succ (year month : Nat) :
    daysBeforeMonth year (month + 1) = daysBeforeMonth year month + daysInMonth year month := rfl

/-- Later months have more days before them. -/
theorem daysBeforeMonth_mono (year : Nat) {month later : Nat} (h : month ≤ later) :
    daysBeforeMonth year month ≤ daysBeforeMonth year later := by
  induction h with
  | refl => exact Nat.le_refl _
  | step _ ih => exact Nat.le_trans ih (Nat.le_add_right _ _)

/-- The twelve months are a year. -/
theorem daysBeforeMonth_thirteen (year : Nat) :
    daysBeforeMonth year 13 = if isLeapYear year then 366 else 365 := by
  simp only [daysBeforeMonth, daysInMonth]
  split <;> rfl

/-- The days of the past years, with one more for every leap year among them. -/
theorem daysBeforeYear_eq (past : Nat) :
    daysBeforeYear (past + 1) = past * 365 + past / 4 - past / 100 + past / 400 := rfl

/-- **The months of a year lead to the next one.** -/
theorem daysBeforeYear_succ {year : Nat} (h : 1 ≤ year) :
    daysBeforeYear (year + 1) = daysBeforeYear year + daysBeforeMonth year 13 := by
  obtain ⟨past, rfl⟩ := Nat.exists_eq_add_of_le' h
  rw [daysBeforeMonth_thirteen, daysBeforeYear_eq, daysBeforeYear_eq]
  -- a leap day is counted by the quotients by 4, 100 and 400, each of which may step at this year
  have hleap := isLeapYear_iff (past + 1)
  have hcut : past / 100 ≤ past := Nat.div_le_self past 100
  by_cases hfour : (past + 1) % 4 = 0
  · by_cases hcentury : (past + 1) % 100 = 0
    · by_cases hfourth : (past + 1) % 400 = 0
      · rw [if_pos (hleap.2 ⟨hfour, .inr hfourth⟩), Nat.succ_div_of_mod_eq_zero hfour,
          Nat.succ_div_of_mod_eq_zero hcentury, Nat.succ_div_of_mod_eq_zero hfourth]
        omega
      · rw [if_neg fun h => (hleap.1 h).2.elim (absurd hcentury) hfourth,
          Nat.succ_div_of_mod_eq_zero hfour, Nat.succ_div_of_mod_eq_zero hcentury,
          Nat.succ_div_of_mod_ne_zero hfourth]
        omega
    · have hfourth : (past + 1) % 400 ≠ 0 := by omega
      rw [if_pos (hleap.2 ⟨hfour, .inl hcentury⟩), Nat.succ_div_of_mod_eq_zero hfour,
        Nat.succ_div_of_mod_ne_zero hcentury, Nat.succ_div_of_mod_ne_zero hfourth]
      omega
  · have hcentury : (past + 1) % 100 ≠ 0 := by omega
    have hfourth : (past + 1) % 400 ≠ 0 := by omega
    rw [if_neg fun h => hfour (hleap.1 h).1, Nat.succ_div_of_mod_ne_zero hfour,
      Nat.succ_div_of_mod_ne_zero hcentury, Nat.succ_div_of_mod_ne_zero hfourth]
    omega

/-- A day of a month lies before the next month. -/
theorem dayOfYear_le {year month day : Nat} (h : IsDate year month day) :
    daysBeforeMonth year month + day ≤ daysBeforeMonth year (month + 1) :=
  Nat.add_le_add_left h.2.2.2.2.2 _

/-- The day of a date lies in its year. -/
theorem ordinal_bounds (d : Date) :
    daysBeforeYear d.year < d.ordinal ∧ d.ordinal ≤ daysBeforeYear (d.year + 1) := by
  obtain ⟨hyear, -, -, hmonth, hday, -⟩ := d.isDate
  have hinside := dayOfYear_le d.isDate
  have hlast : daysBeforeMonth d.year (d.month + 1) ≤ daysBeforeMonth d.year 13 :=
    daysBeforeMonth_mono d.year (by omega)
  rw [daysBeforeYear_succ hyear]
  unfold ordinal
  omega

/-! ## The year and the month of a day -/

/-- Four hundred times the days before a year are 146097 times the years, give or take two leap
days. -/
theorem daysBeforeYear_bounds (past : Nat) :
    146097 * past < 400 * daysBeforeYear (past + 1) + 800 ∧
      400 * daysBeforeYear (past + 1) < 146097 * past + 400 := by
  rw [daysBeforeYear_eq]
  omega

/-- **The year of a day is found.** The estimate is the year or the one before it, and comparing the
day with the ends of the estimated year tells which. -/
theorem yearOfOrdinal_eq {year n : Nat} (hyear : 1 ≤ year) (hafter : daysBeforeYear year < n)
    (hbefore : n ≤ daysBeforeYear (year + 1)) : yearOfOrdinal n = year := by
  obtain ⟨past, rfl⟩ := Nat.exists_eq_add_of_le' hyear
  have hlow := (daysBeforeYear_bounds past).1
  have hhigh := (daysBeforeYear_bounds (past + 1)).2
  have hestimate : (n - 1) * 400 / 146097 = past ∨ (n - 1) * 400 / 146097 + 1 = past := by omega
  simp only [yearOfOrdinal]
  rcases hestimate with heq | heq
  · rw [heq, if_neg (by omega), if_neg (by omega)]
  · have hprevious := daysBeforeYear_succ (show 1 ≤ past by omega)
    rw [heq, if_neg (by omega), if_pos hafter]

/-- **The month of a day is found**: the last one that starts before the day. Induction on the month
from which the search goes down. -/
theorem monthOfDay_eq {year month day last : Nat} (hmonth : 1 ≤ month) (hlast : month ≤ last)
    (hafter : daysBeforeMonth year month < day)
    (hbefore : day ≤ daysBeforeMonth year (month + 1)) : monthOfDay year day last = month := by
  induction last with
  | zero => omega
  | succ last ih =>
    unfold monthOfDay
    rcases Nat.lt_or_eq_of_le hlast with hlt | heq
    · have hnext : daysBeforeMonth year (month + 1) ≤ daysBeforeMonth year (last + 1) :=
        daysBeforeMonth_mono year hlt
      rw [if_neg (by omega)]
      exact ih (by omega)
    · rw [if_pos (heq ▸ hafter), heq]

/-! ## Dates and day numbers -/

/-- A date is found by its ordinal. -/
theorem ofOrdinal?_ordinal (d : Date) : ofOrdinal? d.ordinal = some d := by
  have hinside := dayOfYear_le d.isDate
  obtain ⟨hyear, -, hmonth, hmonth', hday, -⟩ := d.isDate
  obtain ⟨hafter, hbefore⟩ := ordinal_bounds d
  have hyearOf : yearOfOrdinal d.ordinal = d.year := yearOfOrdinal_eq hyear hafter hbefore
  have hdayOf : d.ordinal - daysBeforeYear d.year = daysBeforeMonth d.year d.month + d.day := by
    unfold ordinal
    omega
  have hmonthOf : monthOfDay d.year (daysBeforeMonth d.year d.month + d.day) 12 = d.month :=
    monthOfDay_eq hmonth hmonth' (by omega) hinside
  simp only [ofOrdinal?, hyearOf, hdayOf, hmonthOf, Nat.add_sub_cancel_left]
  exact dif_pos d.isDate

/-- The date that is found has the ordinal. -/
theorem ordinal_of_ofOrdinal? {n : Nat} {d : Date} (h : ofOrdinal? n = some d) :
    d.ordinal = n := by
  simp only [ofOrdinal?] at h
  split at h
  · next hdate =>
    cases h
    -- the day is at least one, so that none of the subtractions was cut off
    have hday := hdate.2.2.2.2.1
    simp only [ordinal]
    omega
  · cases h

/-- **The date found for a day number is the one that has it.** -/
theorem ofOrdinal?_eq_some_iff {n : Nat} {d : Date} : ofOrdinal? n = some d ↔ d.ordinal = n :=
  ⟨ordinal_of_ofOrdinal?, fun h => h ▸ ofOrdinal?_ordinal d⟩

/-! ## The days of the calendar -/

/-- Later years have more days before them. -/
theorem daysBeforeYear_mono {year later : Nat} (hyear : 1 ≤ year) (h : year ≤ later) :
    daysBeforeYear year ≤ daysBeforeYear later := by
  induction h with
  | refl => exact Nat.le_refl _
  | @step later hle ih =>
    rw [daysBeforeYear_succ (Nat.le_trans hyear hle)]
    exact Nat.le_trans ih (Nat.le_add_right _ _)

/-- What lies between the ends of a staircase lies on one of its steps. Induction on the last
step. -/
theorem exists_step {f : Nat → Nat} {last n : Nat} (hfirst : f 1 = 0) (hpos : 0 < n)
    (hlast : n ≤ f (last + 1)) : ∃ k, 1 ≤ k ∧ k ≤ last ∧ f k < n ∧ n ≤ f (k + 1) := by
  induction last with
  | zero =>
    rw [Nat.zero_add, hfirst] at hlast
    omega
  | succ last ih =>
    rcases Nat.lt_or_ge (f (last + 1)) n with hlt | hge
    · exact ⟨last + 1, by omega, Nat.le_refl _, hlt, hlast⟩
    · obtain ⟨k, hk, hle, hstep⟩ := ih hge
      exact ⟨k, hk, by omega, hstep⟩

/-- **Every day up to the end of the year 9999 is a date.** -/
theorem exists_ordinal_iff {n : Nat} :
    (∃ d : Date, d.ordinal = n) ↔ 0 < n ∧ n ≤ daysBeforeYear 10000 := by
  constructor
  · -- a date lies in its year, and years end with 9999
    rintro ⟨d, rfl⟩
    obtain ⟨hafter, hbefore⟩ := ordinal_bounds d
    obtain ⟨hyear, hyear', -⟩ := d.isDate
    have hlast := daysBeforeYear_mono (show 1 ≤ d.year + 1 by omega)
      (show d.year + 1 ≤ 10000 by omega)
    omega
  · -- the year, then the month, is the last one to start before the day
    rintro ⟨hpos, hlast⟩
    obtain ⟨year, hyear, hyear', hafter, hbefore⟩ := exists_step rfl hpos hlast
    rw [daysBeforeYear_succ hyear] at hbefore
    obtain ⟨month, hmonth, hmonth', hstart, hend⟩ :=
      exists_step (f := daysBeforeMonth year) (n := n - daysBeforeYear year) rfl
        (show 0 < n - daysBeforeYear year by omega)
        (show n - daysBeforeYear year ≤ daysBeforeMonth year 13 by omega)
    rw [daysBeforeMonth_succ] at hend
    have hdate : IsDate year month (n - daysBeforeYear year - daysBeforeMonth year month) :=
      ⟨hyear, hyear', hmonth, hmonth', by omega, by omega⟩
    refine ⟨⟨_, _, _, hdate⟩, ?_⟩
    simp only [ordinal]
    omega

end Date

/-! ## Times of day -/

namespace TimeOfDay

/-- A time of day is less than a day. -/
theorem microseconds_lt (t : TimeOfDay) : t.microseconds < DateTime.dayLength := by
  have hhour := t.hour_lt
  have hminute := t.minute_lt
  have hsecond := t.second_lt
  have hmicrosecond := t.microsecond_lt
  unfold microseconds seconds DateTime.dayLength
  omega

/-- A time of day is told by its microseconds. -/
theorem ofMicroseconds_microseconds (t : TimeOfDay) : ofMicroseconds t.microseconds = t := by
  obtain ⟨hour, minute, second, microsecond, hhour, hminute, hsecond, hmicrosecond⟩ := t
  simp only [ofMicroseconds, microseconds, seconds, mk.injEq]
  omega

/-- Each count of microseconds below a day is a time of day. -/
theorem microseconds_ofMicroseconds {n : Nat} (h : n < DateTime.dayLength) :
    (ofMicroseconds n).microseconds = n := by
  unfold DateTime.dayLength at h
  simp only [ofMicroseconds, microseconds, seconds]
  omega

end TimeOfDay

/-! ## Date-times and counts of microseconds -/

namespace DateTime

/-- The full days of a count are the ordinal of the date. -/
theorem microseconds_div (t : DateTime) : t.microseconds / dayLength = t.date.ordinal := by
  rw [microseconds, Nat.mul_comm, Nat.mul_add_div (by decide),
    Nat.div_eq_of_lt t.time.microseconds_lt, Nat.add_zero]

/-- The rest of a count is the time of day. -/
theorem microseconds_mod (t : DateTime) : t.microseconds % dayLength = t.time.microseconds := by
  rw [microseconds, Nat.mul_comm, Nat.mul_add_mod, Nat.mod_eq_of_lt t.time.microseconds_lt]

/-- **The date-time found for a count of microseconds is the one that has it.** -/
theorem ofMicroseconds?_eq_some_iff {n : Int} {t : DateTime} :
    ofMicroseconds? n = some t ↔ (t.microseconds : Int) = n := by
  unfold ofMicroseconds?
  constructor
  · intro h
    split at h
    · cases h
    · obtain ⟨date, hdate, rfl⟩ := Option.map_eq_some_iff.1 h
      have hordinal := Date.ordinal_of_ofOrdinal? hdate
      have htime := TimeOfDay.microseconds_ofMicroseconds
        (Nat.mod_lt n.toNat (show 0 < dayLength by decide))
      have hsum := Nat.div_add_mod' n.toNat dayLength
      simp only [microseconds, hordinal, htime, hsum]
      omega
  · rintro rfl
    rw [if_neg (by omega), Int.toNat_natCast, microseconds_div, microseconds_mod,
      Date.ofOrdinal?_ordinal, Option.map_some, TimeOfDay.ofMicroseconds_microseconds]

/-- The counts of microseconds from the start of the year 1 to the end of the year 9999. -/
def InCalendar (n : Int) : Prop :=
  (dayLength : Int) ≤ n ∧ n < ((Date.daysBeforeYear 10000 + 1) * dayLength : Nat)

/-- **Every microsecond of the years 1 to 9999 is a date-time, and no other is.** -/
theorem exists_microseconds_iff {n : Int} :
    (∃ t : DateTime, (t.microseconds : Int) = n) ↔ InCalendar n := by
  constructor
  · -- a moment lies within its day
    rintro ⟨t, rfl⟩
    obtain ⟨hfirst, hlast⟩ := Date.exists_ordinal_iff.1 ⟨t.date, rfl⟩
    have htime := t.time.microseconds_lt
    have hlow := Nat.mul_le_mul_right dayLength hfirst
    have hhigh := Nat.mul_le_mul_right dayLength hlast
    simp only [InCalendar, microseconds, Nat.add_mul]
    omega
  · -- the day is the quotient, the time of day the remainder
    rintro ⟨hlow, hhigh⟩
    have hsum := Nat.div_add_mod' n.toNat dayLength
    have hdays : dayLength ≤ n.toNat ∧ n.toNat < (Date.daysBeforeYear 10000 + 1) * dayLength := by
      omega
    have hfirst : 0 < n.toNat / dayLength := Nat.div_pos hdays.1 (by decide)
    have hlast : n.toNat / dayLength < Date.daysBeforeYear 10000 + 1 :=
      (Nat.div_lt_iff_lt_mul (by decide)).2 hdays.2
    obtain ⟨date, hdate⟩ := Date.exists_ordinal_iff.2 ⟨hfirst, Nat.le_of_lt_succ hlast⟩
    have htime := TimeOfDay.microseconds_ofMicroseconds
      (Nat.mod_lt n.toNat (show 0 < dayLength by decide))
    refine ⟨⟨date, .ofMicroseconds (n.toNat % dayLength)⟩, ?_⟩
    simp only [microseconds, hdate, htime, hsum]
    omega

/-- Different date-times have different counts. -/
theorem microseconds_injective {t u : DateTime} (h : t.microseconds = u.microseconds) : t = u := by
  have ht : ofMicroseconds? t.microseconds = some t := ofMicroseconds?_eq_some_iff.2 rfl
  have hu : ofMicroseconds? t.microseconds = some u := ofMicroseconds?_eq_some_iff.2 (by rw [h])
  exact Option.some.inj (ht.symm.trans hu)

end DateTime

end ApiShape.Time
