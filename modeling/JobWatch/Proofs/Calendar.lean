import JobWatch.Time.Timestamp

/-!
# The calendar

Every number of a day is the number of the date that it stands for, and that date exists. A cycle
of 400 years is taken apart into centuries, spans of four years and years; a day that would be the
first of one part more is the leap day at the end of the last.
-/

set_option autoImplicit false

namespace JobWatch.Date

/-- A day of a cycle of 400 years: its century, the four years of the century, the year of the
four, and the day of the year. Only the last of four years has a leap day, and the last year of a
century only if it is the last of the cycle. -/
structure Place where
  century : Int
  span : Int
  single : Int
  dayOfYear : Int
  century_range : 0 ≤ century ∧ century ≤ 3
  span_range : 0 ≤ span ∧ span ≤ 24
  single_range : 0 ≤ single ∧ single ≤ 3
  day_range : 0 ≤ dayOfYear ∧ dayOfYear ≤ 365
  leap : dayOfYear = 365 → single = 3 ∧ (span < 24 ∨ century = 3)

namespace Place

def yearOfCycle (place : Place) : Int := 100 * place.century + 4 * place.span + place.single

def dayOfCycle (place : Place) : Int :=
  36524 * place.century + 1461 * place.span + 365 * place.single + place.dayOfYear

theorem exists_of_day {day : Int} (low : 0 ≤ day) (high : day < 146097) :
    ∃ place : Place, place.dayOfCycle = day := by
  -- The quotients are capped, so that the last day of a cycle stays in its last century.
  obtain ⟨century, rest, centuries, whole, bounds⟩ : ∃ century rest : Int,
      (0 ≤ century ∧ century ≤ 3) ∧ day = 36524 * century + rest ∧
        0 ≤ rest ∧ rest ≤ 36524 ∧ (rest = 36524 → century = 3) :=
    ⟨min 3 (day / 36524), day - 36524 * min 3 (day / 36524), by omega, by omega, by omega⟩
  obtain ⟨span, days, spans, part, within⟩ : ∃ span days : Int,
      (0 ≤ span ∧ span ≤ 24) ∧ rest = 1461 * span + days ∧
        0 ≤ days ∧ days ≤ 1460 ∧ (days = 1460 → span < 24 ∨ century = 3) :=
    ⟨min 24 (rest / 1461), rest - 1461 * min 24 (rest / 1461), by omega, by omega, by omega⟩
  refine ⟨⟨century, span, min 3 (days / 365), days - 365 * min 3 (days / 365), centuries, spans,
    by omega, by omega, by omega⟩, ?_⟩
  simp only [dayOfCycle]
  omega

theorem yearOfCycle_range (place : Place) : 0 ≤ place.yearOfCycle ∧ place.yearOfCycle ≤ 399 := by
  obtain ⟨century, span, single, day, _, _, _, _, _⟩ := place
  simp only [yearOfCycle]
  omega

/-- Only the last century of a cycle has a leap day at its end. -/
theorem rest_of_century (place : Place) :
    1461 * place.span + 365 * place.single + place.dayOfYear < 36524 ∨
      place.century = 3 ∧ 1461 * place.span + 365 * place.single + place.dayOfYear = 36524 := by
  obtain ⟨century, span, single, day, _, _, _, _, leap⟩ := place
  dsimp only
  omega

theorem dayOfCycle_range (place : Place) :
    0 ≤ place.dayOfCycle ∧ place.dayOfCycle ≤ 146096 := by
  have rest := place.rest_of_century
  obtain ⟨century, span, single, day, _, _, _, _, _⟩ := place
  simp only [dayOfCycle] at rest ⊢
  omega

theorem dayOfCycle_eq (place : Place) :
    place.dayOfCycle = place.yearOfCycle * 365 + place.yearOfCycle / 4 -
      place.yearOfCycle / 100 + place.dayOfYear := by
  obtain ⟨century, span, single, day, _, _, _, _, _⟩ := place
  simp only [dayOfCycle, yearOfCycle]
  omega

/-- The days that leap years have added are taken away again, so that all years are alike. -/
theorem yearOfCycle_eq (place : Place) :
    (place.dayOfCycle - place.dayOfCycle / 1460 + place.dayOfCycle / 36524 -
      place.dayOfCycle / 146096) / 365 = place.yearOfCycle := by
  have rest := place.rest_of_century
  obtain ⟨century, span, single, day, _, _, _, _, leap⟩ := place
  simp only [dayOfCycle, yearOfCycle] at rest ⊢
  generalize whole : 36524 * century + 1461 * span + 365 * single + day = number
  have centuries : number / 36524 - number / 146096 = century := by
    rcases rest with rest | ⟨last, rest⟩
    · have counted : number / 36524 = century := by omega
      have early : number / 146096 = 0 := by omega
      rw [counted, early, Int.sub_zero]
    · have full : number = 146096 := by omega
      rw [full, last]
      rfl
  -- Dividing by 1460 counts one span too many just where the leap day of the span is reached.
  have spans : number / 1460 =
      25 * century + span + (24 * century + span + 365 * single + day) / 1460 := by omega
  clear rest
  omega

theorem isLeapYear_of_leapDay (place : Place) (leapDay : place.dayOfYear = 365) (cycle : Int) :
    isLeapYear (place.yearOfCycle + cycle * 400 + 1) = true := by
  obtain ⟨century, span, single, day, _, _, _, _, leap⟩ := place
  obtain ⟨last, exempt⟩ := leap leapDay
  simp only [isLeapYear, yearOfCycle, Bool.and_eq_true, Bool.or_eq_true, beq_iff_eq, bne_iff_ne]
  omega

/-- The months from March on: the five from March and the five from August have 153 days. -/
def monthFromMarch (place : Place) : Int := (5 * place.dayOfYear + 2) / 153

def day (place : Place) : Int := place.dayOfYear - (153 * place.monthFromMarch + 2) / 5 + 1

def month (place : Place) : Int :=
  if place.monthFromMarch < 10 then place.monthFromMarch + 3 else place.monthFromMarch - 9

def date (place : Place) (cycle : Int) : Date :=
  ⟨place.yearOfCycle + cycle * 400 + (if place.month ≤ 2 then 1 else 0), place.month.toNat,
    place.day.toNat⟩

theorem monthFromMarch_range (place : Place) :
    0 ≤ place.monthFromMarch ∧ place.monthFromMarch ≤ 11 := by
  have := place.day_range
  unfold monthFromMarch
  omega

theorem month_range (place : Place) : 1 ≤ place.month ∧ place.month ≤ 12 := by
  have := place.monthFromMarch_range
  unfold month
  split <;> omega

theorem dayOfMonth_range (place : Place) : 1 ≤ place.day ∧ place.day ≤ 31 := by
  have := place.day_range
  unfold day monthFromMarch
  omega

theorem month_date (place : Place) (cycle : Int) :
    ((place.date cycle).month : Int) = place.month := by
  have := place.month_range
  simp only [date]
  omega

theorem day_date (place : Place) (cycle : Int) :
    ((place.date cycle).day : Int) = place.day := by
  have := place.dayOfMonth_range
  simp only [date]
  omega

/-- A year of the count starts in March of a year of the calendar. -/
theorem countedYear_date (place : Place) (cycle : Int) :
    (if (place.date cycle).month ≤ 2 then (place.date cycle).year - 1
      else (place.date cycle).year) = place.yearOfCycle + cycle * 400 := by
  have month := place.month_date cycle
  have year : (place.date cycle).year =
      place.yearOfCycle + cycle * 400 + (if place.month ≤ 2 then 1 else 0) := rfl
  rw [year]
  split <;> split <;> omega

theorem toDays_date (place : Place) (cycle : Int) :
    (place.date cycle).toDays = cycle * 146097 + place.dayOfCycle - epochShift := by
  have fromMarch : ((((place.date cycle).month + 9) % 12 : Nat) : Int) = place.monthFromMarch := by
    have shown := place.month_date cycle
    have range := place.monthFromMarch_range
    unfold month at shown
    split at shown <;> omega
  have inYear : (153 * place.monthFromMarch + 2) / 5 + ((place.date cycle).day : Int) - 1 =
      place.dayOfYear := by
    rw [day_date, day]
    omega
  have range := place.yearOfCycle_range
  have cycles : (place.yearOfCycle + cycle * 400) / 400 = cycle := by omega
  have inCycle : (place.yearOfCycle + cycle * 400) % 400 = place.yearOfCycle := by omega
  simp only [toDays, countedYear_date, fromMarch, inYear, cycles, inCycle, dayOfCycle_eq]

theorem day_le_of_monthFromMarch (place : Place) :
    place.day ≤ (153 * place.monthFromMarch + 155) / 5 - (153 * place.monthFromMarch + 2) / 5 := by
  have range := place.day_range
  unfold day monthFromMarch
  omega

theorem daysInMonth_fromMarch (year : Int) {m : Nat} (beforeFebruary : m < 11) :
    (daysInMonth year ((m + 2) % 12 + 1) : Int) =
      (153 * (m : Int) + 155) / 5 - (153 * (m : Int) + 2) / 5 := by
  match m, beforeFebruary with
  | 0, _ | 1, _ | 2, _ | 3, _ | 4, _ | 5, _ | 6, _ | 7, _ | 8, _ | 9, _ | 10, _ => rfl

/-- February ends with the day before the leap day, unless the year has one. -/
theorem day_le_of_february (place : Place) (last : place.monthFromMarch = 11) (cycle : Int) :
    place.day ≤ 28 ∨ place.day = 29 ∧ isLeapYear (place.date cycle).year = true := by
  have range := place.day_range
  by_cases leapDay : place.dayOfYear = 365
  · have leap := place.isLeapYear_of_leapDay leapDay cycle
    have february : place.month = 2 := by simp [month, last]
    refine .inr ⟨?_, ?_⟩
    · simp [day, last, leapDay]
    · simpa [date, february] using leap
  · simp only [day, last]
    omega

theorem isValid_date (place : Place) (cycle : Int) : (place.date cycle).isValid = true := by
  have low := place.dayOfMonth_range
  have shown := place.day_date cycle
  have high : place.day ≤ daysInMonth (place.date cycle).year (place.date cycle).month := by
    have month := place.month_date cycle
    have range := place.monthFromMarch_range
    by_cases last : place.monthFromMarch = 11
    · have february : (place.date cycle).month = 2 := by
        simp only [Place.month, last] at month
        omega
      rw [february, daysInMonth]
      rcases place.day_le_of_february last cycle with short | ⟨long, leap⟩
      · split <;> omega
      · simp [leap, long]
    · have bound := place.day_le_of_monthFromMarch
      obtain ⟨m, counted⟩ := Int.eq_ofNat_of_zero_le range.1
      have named : (place.date cycle).month = (m + 2) % 12 + 1 := by
        unfold Place.month at month
        split at month <;> omega
      rw [named, daysInMonth_fromMarch _ (by omega)]
      exact counted ▸ bound
  simp only [isValid, Bool.and_eq_true, decide_eq_true_eq]
  omega

end Place

theorem exists_place (days : Int) : ∃ (place : Place) (cycle : Int),
    ofDays days = place.date cycle ∧
      days = cycle * 146097 + place.dayOfCycle - epochShift := by
  obtain ⟨place, same⟩ : ∃ place : Place, place.dayOfCycle = (days + epochShift) % 146097 :=
    Place.exists_of_day (by omega) (by omega)
  refine ⟨place, (days + epochShift) / 146097, ?_, by omega⟩
  have inYear : place.dayOfCycle - (365 * place.yearOfCycle + place.yearOfCycle / 4 -
      place.yearOfCycle / 100) = place.dayOfYear := by
    rw [place.dayOfCycle_eq]
    omega
  simp only [ofDays, ← same, place.yearOfCycle_eq, inYear]
  rfl

@[simp] theorem toDays_ofDays (days : Int) : (ofDays days).toDays = days := by
  obtain ⟨place, cycle, same, counted⟩ := exists_place days
  rw [same, place.toDays_date, ← counted]

@[simp] theorem isValid_ofDays (days : Int) : (ofDays days).isValid = true := by
  obtain ⟨place, cycle, same, _⟩ := exists_place days
  rw [same, place.isValid_date]

theorem month_ofDays_lt (days : Int) : (ofDays days).month < 100 := by
  obtain ⟨place, cycle, same, _⟩ := exists_place days
  have month := place.month_date cycle
  have range := place.month_range
  rw [same]
  omega

theorem day_ofDays_lt (days : Int) : (ofDays days).day < 100 := by
  obtain ⟨place, cycle, same, _⟩ := exists_place days
  have day := place.day_date cycle
  have range := place.dayOfMonth_range
  rw [same]
  omega

end JobWatch.Date
