import FlagBinding.Text.Trim

/-!
# Date and time patterns

A pattern is a text in which `%` and a letter stand for a part of a date or a time. It is read into
a list of items, each of which takes up some of the input when a text is scanned.

## Main definitions

* `Field`: the numeric parts of a date and time.
* `PatternItem`: one item of a pattern.
* `pattern`: the items of a text.
-/

namespace FlagBinding.Time

/-- The numeric parts that a text may give of a date and time. -/
inductive Field
  | year
  | century
  | yearOfCentury
  | isoYear
  | isoYearOfCentury
  | quarter
  | month
  | day
  | weekFromSunday
  | weekFromMonday
  | isoWeek
  | weekdayFromSunday
  | weekdayFromMonday
  | ordinal
  | hour
  | hourOfHalf
  | minute
  | second
  | nanosecond
  | timestamp
  deriving DecidableEq, Repr

/-- One item of a pattern. -/
inductive PatternItem
  /-- A character that stands for itself. -/
  | literal (c : Char)
  /-- Any blanks, or none. -/
  | blanks
  | number (field : Field)
  /-- The name of a month: its first three letters, and where `long` is set perhaps the others. -/
  | monthName (long : Bool)
  | weekdayName (long : Bool)
  /-- The letters `am` or `pm`. -/
  | halfDay
  /-- A point and a fraction of a second, or nothing; with a width, of exactly so many digits. -/
  | fraction (width : Option Nat)
  /-- A fraction of a second of exactly so many digits, without a point. -/
  | bareFraction (width : Nat)
  /-- A run of anything but blanks. -/
  | zoneName
  /-- An offset from universal time; a lenient one may be `Z` or lack its minutes. -/
  | offset (lenient : Bool)
  /-- A date and time in the form of the Internet, with blanks between its parts. -/
  | internetTime
  /-- Not a pattern: no input fits. -/
  | unknown
  deriving DecidableEq, Repr

namespace PatternItem

def isoDate : List PatternItem :=
  [number .year, literal '-', number .month, literal '-', number .day]

def hourMinute : List PatternItem :=
  [number .hour, literal ':', number .minute]

def clockTime : List PatternItem :=
  hourMinute ++ [literal ':', number .second]

def slashDate : List PatternItem :=
  [number .month, literal '/', number .day, literal '/', number .yearOfCentury]

/-- The numeric part that a letter stands for. -/
def field? : Char → Option Field
  | 'C' => some .century
  | 'G' => some .isoYear
  | 'H' | 'k' => some .hour
  | 'I' | 'l' => some .hourOfHalf
  | 'M' => some .minute
  | 'S' => some .second
  | 'U' => some .weekFromSunday
  | 'V' => some .isoWeek
  | 'W' => some .weekFromMonday
  | 'Y' => some .year
  | 'd' | 'e' => some .day
  | 'f' => some .nanosecond
  | 'g' => some .isoYearOfCentury
  | 'j' => some .ordinal
  | 'm' => some .month
  | 'q' => some .quarter
  | 's' => some .timestamp
  | 'u' => some .weekdayFromMonday
  | 'w' => some .weekdayFromSunday
  | 'y' => some .yearOfCentury
  | _ => none

/-- The items that a letter stands for which is no numeric part. -/
def compound : Char → List PatternItem
  | 'A' => [weekdayName true]
  | 'B' => [monthName true]
  | 'D' | 'x' => slashDate
  | 'F' => isoDate
  | 'P' | 'p' => [halfDay]
  | 'R' => hourMinute
  | 'T' | 'X' => clockTime
  | 'Z' => [zoneName]
  | 'a' => [weekdayName false]
  | 'b' | 'h' => [monthName false]
  | 'c' =>
    [weekdayName false, blanks, monthName false, blanks, number .day, blanks] ++ clockTime ++
      [blanks, number .year]
  | 'n' | 't' => [blanks]
  | 'r' =>
    [number .hourOfHalf, literal ':', number .minute, literal ':', number .second, blanks, halfDay]
  | 'v' => [number .day, literal '-', monthName false, literal '-', number .year]
  | 'z' => [offset false]
  | '+' => [internetTime]
  | '%' => [literal '%']
  | _ => [unknown]

def ofLetter (c : Char) : List PatternItem :=
  match field? c with
  | some f => [number f]
  | none => compound c

/-- The items of a letter that has a padding mark, which only a numeric part may have. -/
def ofPaddedLetter (c : Char) : List PatternItem :=
  match field? c with
  | some f => [number f]
  | none => [unknown]

end PatternItem

open PatternItem in
/-- The items of a pattern. A malformed specifier takes up the rest of it. -/
def patternItems : List Char → List PatternItem
  | '%' :: '-' :: c :: rest => ofPaddedLetter c ++ patternItems rest
  | '%' :: '0' :: c :: rest => ofPaddedLetter c ++ patternItems rest
  | '%' :: '_' :: c :: rest => ofPaddedLetter c ++ patternItems rest
  | '%' :: '#' :: 'z' :: rest => offset true :: patternItems rest
  | '%' :: ':' :: ':' :: ':' :: 'z' :: rest => offset false :: patternItems rest
  | '%' :: ':' :: ':' :: 'z' :: rest => offset false :: patternItems rest
  | '%' :: ':' :: 'z' :: rest => offset false :: patternItems rest
  | '%' :: '.' :: 'f' :: rest => fraction none :: patternItems rest
  | '%' :: '.' :: '3' :: 'f' :: rest => fraction (some 3) :: patternItems rest
  | '%' :: '.' :: '6' :: 'f' :: rest => fraction (some 6) :: patternItems rest
  | '%' :: '.' :: '9' :: 'f' :: rest => fraction (some 9) :: patternItems rest
  | '%' :: '3' :: 'f' :: rest => bareFraction 3 :: patternItems rest
  | '%' :: '6' :: 'f' :: rest => bareFraction 6 :: patternItems rest
  | '%' :: '9' :: 'f' :: rest => bareFraction 9 :: patternItems rest
  | '%' :: c :: rest => ofLetter c ++ patternItems rest
  | ['%'] => [unknown]
  | c :: rest => (if Text.isBlank c then blanks else literal c) :: patternItems rest
  | [] => []

def pattern (s : String) : List PatternItem :=
  patternItems s.toList

end FlagBinding.Time
