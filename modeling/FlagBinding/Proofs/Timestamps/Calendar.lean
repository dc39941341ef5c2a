import FlagBinding.Time.Calendar
import Mathlib.Tactic.IntervalCases

/-!
# Day numbers and dates

The calendar repeats after an era of 400 years. A day number is an era and a day in it, which has a
year, a month and a day of its own; they are those of the date, except that years begin in March.

## Main definitions

* `Date.IsDay`: a date that the calendar has.
* `Date.EraDay`: a day in an era.

## Main statements

* `Date.exists_eraDay`: the date of a day number is a day of an era.
* `Date.dayNumber_ofDayNumber`, `Date.isDay_ofDayNumber`: it is a date of the calendar and has that
  number.
* `Date.year_ofDayNumber`: the years of four digits.
-/

namespace FlagBinding.Time.Date

/-- A date that the calendar has. -/
structure IsDay (d : Date) : Prop where
  month : 1 ≤ d.month ∧ d.month ≤ 12
  day : 1 ≤ d.day ∧ d.day ≤ daysInMonth d.year d.month

theorem IsDay.day_le {d : Date} (day : d.IsDay) : d.day ≤ 31 := by
  refine Nat.le_trans day.day.2 ?_
  unfold daysInMonth
  split <;> split <;> omega

/-! ## Years of an era -/

def daysBefore (year : Int) : Int :=
  365 * year + year / 4 - year / 100

/-- The days of an era before one of its days, without the leap days of the years that have
passed. -/
def commonDays (day : Int) : Int :=
  day - day / 1460 + day / 36524 - day / 146096

theorem commonDays_le_succ (day : Int) : commonDays day ≤ commonDays (day + 1) := by
  -- the last cycle is four times the one before it
  have cycle (n : Int) : n / 146096 = n / 36524 / 4 := by
    rw [Int.ediv_ediv_of_nonneg (by decide)]
    rfl
  rw [commonDays, commonDays, cycle, cycle]
  omega

theorem commonDays_mono {a b : Int} (le : a ≤ b) : commonDays a ≤ commonDays b := by
  induction b, le using Int.leInduction with
  | base => exact Int.le_refl _
  | succ n _ ih => exact Int.le_trans ih (commonDays_le_succ n)

theorem commonDays_at_ends : ∀ year : Nat, year < 400 →
    365 * (year : Int) ≤ commonDays (daysBefore year) ∧
      commonDays (daysBefore (year + 1) - 1) < 365 * ((year : Int) + 1) := by
  decide +kernel

/-- The common days of a year of an era are the days of common years. -/
theorem commonDays_daysBefore {year : Int} (least : 0 ≤ year) (most : year < 400) :
    365 * year ≤ commonDays (daysBefore year) ∧
      commonDays (daysBefore (year + 1) - 1) < 365 * (year + 1) := by
  obtain ⟨n, rfl⟩ := Int.eq_ofNat_of_zero_le least
  exact commonDays_at_ends n (by omega)

/-- The year in which a day of an era lies. -/
theorem year_of_commonDays {day : Int} (least : 0 ≤ day) (most : day < 146097) :
    let year := commonDays day / 365
    (0 ≤ year ∧ year < 400) ∧ daysBefore year ≤ day ∧
      (day < daysBefore (year + 1) ∨ year = 399 ∧ day < daysBefore year + 366) := by
  intro year
  have low : 0 ≤ commonDays day := commonDays_mono least
  have high : commonDays day ≤ 145999 := commonDays_mono (show day ≤ 146096 by omega)
  have range : 0 ≤ year ∧ year < 400 := by omega
  refine ⟨range, ?_, ?_⟩
  · by_contra early
    rcases Int.lt_or_eq_of_le range.1 with positive | zero
    · have before := (@commonDays_daysBefore (year - 1) (by omega) (by omega)).2
      have := commonDays_mono (show day ≤ daysBefore (year - 1 + 1) - 1 by
        rw [Int.sub_add_cancel]; omega)
      omega
    · exact early (zero ▸ least)
  · by_contra late
    rw [not_or, not_and] at late
    by_cases last : year = 399
    · have := late.2 last
      have : daysBefore year = 145731 := by rw [last]; rfl
      omega
    · have after := (@commonDays_daysBefore (year + 1) (by omega) (by omega)).1
      have := commonDays_mono (show daysBefore (year + 1) ≤ day by omega)
      omega

/-! ## Days of an era -/

/-- The days of a year before one of its months, both counted from March. -/
def daysBeforeMonth (month : Int) : Int :=
  (153 * month + 2) / 5

/-- A day in an era of 400 years. The year, the month and the day are counted from zero, and years
begin in March. -/
structure EraDay where
  year : Int
  month : Int
  day : Int
  year_range : 0 ≤ year ∧ year < 400
  month_range : 0 ≤ month ∧ month < 12
  in_month : 0 ≤ day ∧ daysBeforeMonth month + day < daysBeforeMonth (month + 1)
  in_year : daysBefore year + (daysBeforeMonth month + day) < daysBefore (year + 1) ∨
    year = 399 ∧ daysBeforeMonth month + day < 366

namespace EraDay

def number (e : EraDay) : Int :=
  daysBefore e.year + (daysBeforeMonth e.month + e.day)

def date (era : Int) (e : EraDay) : Date :=
  ⟨e.year + era * 400 + (if e.month < 10 then 0 else 1),
    (if e.month < 10 then e.month + 3 else e.month - 9).toNat, (e.day + 1).toNat⟩

theorem dayNumber_date (era : Int) (e : EraDay) :
    (e.date era).dayNumber = era * 146097 + e.number - 719468 := by
  have years := e.year_range
  have months := e.month_range
  have days := e.in_month
  have month : (((e.date era).month + 9) % 12 : Nat) = e.month := by simp only [date]; omega
  have day : ((e.date era).day : Int) = e.day + 1 := by simp only [date]; omega
  have year : (if (e.date era).month ≤ 2 then (e.date era).year - 1 else (e.date era).year) =
      e.year + era * 400 := by
    simp only [date]
    split <;> split at * <;> omega
  rw [dayNumber]
  simp only [month, year, day, number, daysBeforeMonth, daysBefore]
  omega

/-- The last month of a year that begins in March takes what the others leave of the year. -/
theorem last_month {e : EraDay} (last : e.month = 11) (era : Int) :
    e.day < 28 ∨ e.day = 28 ∧ isLeapYear (e.year + era * 400 + 1) := by
  have years := e.year_range
  have within := e.in_year
  simp only [last, daysBeforeMonth, daysBefore] at within
  simp only [isLeapYear, Bool.and_eq_true, Bool.or_eq_true, beq_iff_eq, bne_iff_ne]
  omega

theorem isDay_date (era : Int) (e : EraDay) : (e.date era).IsDay := by
  have months := e.month_range
  have days := e.in_month
  refine ⟨by simp only [date]; omega, by simp only [date]; omega, ?_⟩
  have day : ((e.date era).day : Int) = e.day + 1 := by simp only [date]; omega
  by_cases last : e.month = 11
  · have month : (e.date era).month = 2 := by simp [date, last]
    have year : (e.date era).year = e.year + era * 400 + 1 := by simp [date, last]
    rw [month, year, daysInMonth, if_pos rfl]
    rcases last_month last era with short | ⟨long, leap⟩
    · split <;> omega
    · rw [if_pos leap]
      omega
  · obtain ⟨year, month, day, _, _, _, _⟩ := e
    simp only [date, daysInMonth, daysBeforeMonth] at months days last ⊢
    have : month < 11 := by omega
    have : 0 ≤ month := months.1
    interval_cases month <;> simp at days ⊢ <;> omega

end EraDay

/-! ## Day numbers -/

/-- The date of a day number is that of a day of an era. -/
theorem exists_eraDay (n : Int) : ∃ (era : Int) (e : EraDay),
    n = era * 146097 + e.number - 719468 ∧ ofDayNumber n = e.date era := by
  have least : 0 ≤ (n + 719468) % 146097 := Int.emod_nonneg _ (by decide)
  have most : (n + 719468) % 146097 < 146097 := Int.emod_lt_of_pos _ (by decide)
  obtain ⟨years, low, high⟩ := year_of_commonDays least most
  rw [ofDayNumber]
  simp only [← commonDays.eq_def, ← daysBefore.eq_def]
  generalize commonDays ((n + 719468) % 146097) / 365 = year at *
  have length : daysBefore (year + 1) ≤ daysBefore year + 366 := by unfold daysBefore; omega
  generalize place : (n + 719468) % 146097 - daysBefore year = day at *
  refine ⟨(n + 719468) / 146097,
    { year
      month := (5 * day + 2) / 153
      day := day - (153 * ((5 * day + 2) / 153) + 2) / 5
      year_range := years
      month_range := by omega
      in_month := by simp only [daysBeforeMonth]; omega
      in_year := by simp only [daysBeforeMonth]; omega }, ?_, ?_⟩
  · simp only [EraDay.number, daysBeforeMonth]
    omega
  · simp only [EraDay.date, Date.mk.injEq, and_true]
    split <;> split <;> omega

/-- The date of a day number has that number. -/
theorem dayNumber_ofDayNumber (n : Int) : (ofDayNumber n).dayNumber = n := by
  obtain ⟨era, e, number, date⟩ := exists_eraDay n
  rw [date, e.dayNumber_date, ← number]

theorem isDay_ofDayNumber (n : Int) : (ofDayNumber n).IsDay := by
  obtain ⟨era, e, -, date⟩ := exists_eraDay n
  exact date ▸ e.isDay_date era

/-- From the first day of the year 1 to the last one of the year 9999, years are positive and have
at most four digits. -/
theorem year_ofDayNumber {n : Int} (least : dayNumber ⟨1, 1, 1⟩ ≤ n)
    (most : n ≤ dayNumber ⟨9999, 12, 31⟩) :
    1 ≤ (ofDayNumber n).year ∧ (ofDayNumber n).year ≤ 9999 := by
  obtain ⟨era, e, number, date⟩ := exists_eraDay n
  have years := e.year_range
  have months := e.month_range
  have days := e.in_month
  have first : dayNumber ⟨1, 1, 1⟩ = -719162 := by decide
  have last : dayNumber ⟨9999, 12, 31⟩ = 2932896 := by decide
  simp only [EraDay.number, daysBefore, daysBeforeMonth] at number days
  rw [date, EraDay.date]
  simp only
  split <;> omega

theorem ofParts?_eq_some {d : Date} (day : d.IsDay) (least : leastYear ≤ d.year)
    (most : d.year ≤ greatestYear) : ofParts? d.year d.month d.day = some d :=
  if_pos ⟨least, most, day.month.1, day.month.2, day.day.1, day.day.2⟩

end FlagBinding.Time.Date
