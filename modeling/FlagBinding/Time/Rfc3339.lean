import FlagBinding.Time.Resolve

/-!
# RFC 3339

The date and time format of the Internet: four digits of the year, two of every other part, a
fraction of a second of any length, and an offset.

## Main definitions

* `Rfc3339.parse?`: the instant of a text.
* `Rfc3339.format`: the text of an instant in universal time.
-/

namespace FlagBinding.Time.Rfc3339

open Number

/-- The parts with a number of exactly `width` digits added. -/
def number? (p : Parts) (field : Field) (width : Nat) (cs : List Char) :
    Option (Parts × List Char) := do
  let (v, rest) ← scanNumber? width width cs
  return (← p.set? field v, rest)

def skip? (c : Char) : List Char → Option (List Char)
  | [] => none
  | d :: rest => if d = c then some rest else none

/-- The parts with a fraction of a second added, if there is one. -/
def fraction? (p : Parts) (cs : List Char) : Option (Parts × List Char) :=
  match cs with
  | '.' :: rest => do
    let (v, rest) ← scanFraction? rest
    return (← p.set? .nanosecond v, rest)
  | _ => some (p, cs)

def greatestOffset : Int := (23 * 60 + 59) * 60

/-- The parts of a text. -/
def scan? (cs : List Char) : Option Parts := do
  let (p, cs) ← number? {} .year 4 cs
  let (p, cs) ← number? p .month 2 (← skip? '-' cs)
  let (p, cs) ← number? p .day 2 (← skip? '-' cs)
  let (p, cs) ← number? p .hour 2 (← dateTimeMark cs)
  let (p, cs) ← number? p .minute 2 (← skip? ':' cs)
  let (p, cs) ← number? p .second 2 (← skip? ':' cs)
  let (p, cs) ← fraction? p cs
  let (offset, cs) ← scanOffset? oneColon true false cs
  if offset < -greatestOffset ∨ greatestOffset < offset then none
  if !cs.isEmpty then none
  p.setOffset? offset

def parse? (s : String) : Option Instant :=
  (scan? s.toList).bind Parts.instant?

/-- A year: four digits, or a sign and at least four digits. -/
def formatYear (year : Int) : List Char :=
  if 0 ≤ year ∧ year ≤ 9999 then paddedDigits 4 year.toNat
  else (if year < 0 then '-' else '+') :: paddedDigits 4 year.natAbs

/-- A fraction of a second in as few groups of three digits as it needs. -/
def formatFraction (nanos : Nat) : List Char :=
  if nanos = 0 then []
  else if nanos % 1000000 = 0 then '.' :: paddedDigits 3 (nanos / 1000000)
  else if nanos % 1000 = 0 then '.' :: paddedDigits 6 (nanos / 1000)
  else '.' :: paddedDigits 9 nanos

/-- A date and a time of day in universal time. A leap second is second 60. -/
def formatDateClock (d : Date) (c : Clock) : List Char :=
  formatYear d.year ++ ['-'] ++ paddedDigits 2 d.month ++ ['-'] ++ paddedDigits 2 d.day ++ ['T'] ++
    paddedDigits 2 c.hour ++ [':'] ++ paddedDigits 2 c.minute ++ [':'] ++
    paddedDigits 2 (c.second + c.nanos / 1000000000) ++
      formatFraction (c.nanos % 1000000000) ++ ['Z']

/-- The text of an instant, if its year is in range. -/
def format? (i : Instant) : Option String :=
  i.dateClock?.map fun (d, c) => String.ofList (formatDateClock d c)

end FlagBinding.Time.Rfc3339
