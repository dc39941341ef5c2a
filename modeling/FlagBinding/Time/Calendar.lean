/-!
# The proleptic Gregorian calendar

Dates as year, month and day, and as a number of days from 1970-01-01. Years count through zero, and
a year may be named by an ISO week as well.

## Main definitions

* `Date`: a year, a month and a day, in the range of years that the library handles.
* `Date.dayNumber`, `Date.ofDayNumber`: a date as a number of days and back.
* `Date.weekday`, `Date.ordinal`, `Date.isoWeek`: the place of a date in its week and its year.
* `Clock`: a time of day, with room for a leap second.
-/

namespace FlagBinding.Time

/-- A day of the calendar. -/
structure Date where
  year : Int
  month : Nat
  day : Nat
  deriving DecidableEq, Repr

/-- Whether a year has 366 days. -/
def isLeapYear (year : Int) : Bool :=
  year % 4 == 0 && (year % 100 != 0 || year % 400 == 0)

def daysInMonth (year : Int) (month : Nat) : Nat :=
  if month = 2 then (if isLeapYear year then 29 else 28)
  else if month = 4 ∨ month = 6 ∨ month = 9 ∨ month = 11 then 30
  else 31

def daysInYear (year : Int) : Nat :=
  if isLeapYear year then 366 else 365

/-- The first year that dates may have. -/
def leastYear : Int := -262143

/-- The last year that dates may have. -/
def greatestYear : Int := 262142

namespace Date

/-- Days from 1970-01-01. Years are counted from March on, so that a leap day comes last. -/
def dayNumber (d : Date) : Int :=
  let year := if d.month ≤ 2 then d.year - 1 else d.year
  let era := year / 400
  let yearOfEra := year % 400
  let month : Int := ((d.month + 9) % 12 : Nat)
  let dayOfYear := (153 * month + 2) / 5 + (d.day : Int) - 1
  let dayOfEra := yearOfEra * 365 + yearOfEra / 4 - yearOfEra / 100 + dayOfYear
  era * 146097 + dayOfEra - 719468

/-- The date that is `n` days from 1970-01-01. -/
def ofDayNumber (n : Int) : Date :=
  let z := n + 719468
  let era := z / 146097
  let dayOfEra := z % 146097
  let yearOfEra :=
    (dayOfEra - dayOfEra / 1460 + dayOfEra / 36524 - dayOfEra / 146096) / 365
  let dayOfYear := dayOfEra - (365 * yearOfEra + yearOfEra / 4 - yearOfEra / 100)
  let month := (5 * dayOfYear + 2) / 153
  let day := dayOfYear - (153 * month + 2) / 5 + 1
  let civilMonth := if month < 10 then month + 3 else month - 9
  let year := yearOfEra + era * 400 + (if civilMonth ≤ 2 then 1 else 0)
  ⟨year, civilMonth.toNat, day.toNat⟩

def ofParts? (year : Int) (month day : Nat) : Option Date :=
  if leastYear ≤ year ∧ year ≤ greatestYear ∧ 1 ≤ month ∧ month ≤ 12 ∧ 1 ≤ day ∧
      day ≤ daysInMonth year month then some ⟨year, month, day⟩
  else none

def ofDayNumber? (n : Int) : Option Date :=
  let d := ofDayNumber n
  if leastYear ≤ d.year ∧ d.year ≤ greatestYear then some d else none

/-- The date of a day of a year, counted from one. -/
def ofOrdinal? (year : Int) (ordinal : Nat) : Option Date :=
  if leastYear ≤ year ∧ year ≤ greatestYear ∧ 1 ≤ ordinal ∧ ordinal ≤ daysInYear year then
    some (ofDayNumber (dayNumber ⟨year, 1, 1⟩ + (ordinal - 1)))
  else none

/-- The day of the week, counted from Monday as zero. -/
def weekday (d : Date) : Nat :=
  ((d.dayNumber + 3) % 7).toNat

/-- The day of the year, counted from one. -/
def ordinal (d : Date) : Nat :=
  (d.dayNumber - dayNumber ⟨d.year, 1, 1⟩).toNat + 1

/-- Days from one day of the week to the next occurrence of another. -/
def daysSince (weekday start : Nat) : Nat :=
  (weekday + 7 - start) % 7

/-- The number of the week of the year, where weeks begin with the weekday `start` and the days
before the first of them are in week zero. -/
def weekFrom (d : Date) (start : Nat) : Nat :=
  (d.ordinal + 6 - daysSince d.weekday start) / 7

/-- The Monday of the first ISO week of a year, the one that holds January 4th. -/
def isoYearStart (year : Int) : Int :=
  let fourth := dayNumber ⟨year, 1, 4⟩
  fourth - (fourth + 3) % 7

/-- The ISO year and week of a date. -/
def isoWeek (d : Date) : Int × Nat :=
  let n := d.dayNumber
  let year :=
    if n < isoYearStart d.year then d.year - 1
    else if isoYearStart (d.year + 1) ≤ n then d.year + 1
    else d.year
  (year, ((n - isoYearStart year) / 7).toNat + 1)

/-- The date of an ISO year, week and day of the week. -/
def ofIsoWeek? (year : Int) (week weekday : Nat) : Option Date :=
  let weeks := (isoYearStart (year + 1) - isoYearStart year) / 7
  if week = 0 ∨ weeks < week then none
  else ofDayNumber? (isoYearStart year + (week - 1) * 7 + weekday)

end Date

def secondsPerDay : Nat := 86400

/-- A time of day. A leap second is the last second of a minute with a billion nanoseconds or
more. -/
structure Clock where
  hour : Nat
  minute : Nat
  second : Nat
  nanos : Nat
  deriving DecidableEq, Repr

namespace Clock

def secondOfDay (c : Clock) : Nat :=
  (c.hour * 60 + c.minute) * 60 + c.second

/-- The time that is so many seconds after midnight. -/
def ofSecondOfDay (n nanos : Nat) : Clock :=
  ⟨n / 3600, n / 60 % 60, n % 60, nanos⟩

end Clock

/-- A point in time, as seconds from 1970-01-01T00:00:00Z and nanoseconds. During a leap second
there are a billion nanoseconds or more. -/
structure Instant where
  seconds : Int
  nanos : Nat
  deriving DecidableEq, Repr

namespace Instant

def ofDateClock (d : Date) (c : Clock) : Instant :=
  ⟨d.dayNumber * secondsPerDay + c.secondOfDay, c.nanos⟩

def ofDate (d : Date) : Instant :=
  ofDateClock d ⟨0, 0, 0, 0⟩

/-- The date and the time of day of an instant, if its year is in range and it has a leap second
only at the end of a minute. -/
def dateClock? (i : Instant) : Option (Date × Clock) := do
  let date ← Date.ofDayNumber? (i.seconds / secondsPerDay)
  let clock := Clock.ofSecondOfDay (i.seconds % secondsPerDay).toNat i.nanos
  if i.nanos < 1000000000 ∨ (i.nanos < 2000000000 ∧ clock.second = 59) then some (date, clock)
  else none

end Instant

end FlagBinding.Time
