import FlagBinding.Time.Pattern
import FlagBinding.Time.Calendar
import FlagBinding.Number.Decimal

/-!
# Scanning a date and time

A pattern is matched against a text from left to right. Every item adds what it finds to a record of
parts; a part that is found twice must be the same both times, and has to be in its range.

## Main definitions

* `Parts`: what a text says about a date and time.
* `scan?`: the parts that a text gives under a pattern that it fits as a whole.
-/

namespace FlagBinding.Time

open Number

/-- What a text says about a date and time. The half of the day and the hour in it are separate
parts. -/
structure Parts where
  year : Option Int := none
  century : Option Int := none
  yearOfCentury : Option Int := none
  isoYear : Option Int := none
  isoCentury : Option Int := none
  isoYearOfCentury : Option Int := none
  quarter : Option Int := none
  month : Option Int := none
  day : Option Int := none
  weekFromSunday : Option Int := none
  weekFromMonday : Option Int := none
  isoWeek : Option Int := none
  /-- Counted from Monday as zero. -/
  weekday : Option Int := none
  ordinal : Option Int := none
  /-- Zero for the first half of the day and one for the second. -/
  half : Option Int := none
  hourOfHalf : Option Int := none
  minute : Option Int := none
  second : Option Int := none
  nanosecond : Option Int := none
  timestamp : Option Int := none
  /-- Seconds east of universal time. -/
  offset : Option Int := none

/-- The part with the value `v`, if it has no other value yet. -/
def agree? (old : Option Int) (v : Int) : Option (Option Int) :=
  match old with
  | none => some (some v)
  | some u => if u = v then some (some v) else none

def between? (lo hi v : Int) : Option Int :=
  if lo ≤ v ∧ v ≤ hi then some v else none

/-- The greatest number of 32 bits. -/
def greatest32 : Int := 2 ^ 31 - 1

namespace Parts

/-- The parts with the half of the day and the hour in it that an hour from 0 to 23 gives. -/
def setHour? (p : Parts) (v : Int) : Option Parts := do
  let v ← between? 0 23 v
  return { p with half := ← agree? p.half (v / 12), hourOfHalf := ← agree? p.hourOfHalf (v % 12) }

/-- The parts with one more weekday, counted from Monday as zero. -/
def setWeekday? (p : Parts) (v : Int) : Option Parts := do
  return { p with weekday := ← agree? p.weekday v }

/-- The parts with a numeric part added, if that is in its range and contradicts none. -/
def set? (p : Parts) (field : Field) (v : Int) : Option Parts := do
  match field with
  | .year => return { p with year := ← agree? p.year (← between? (-greatest32 - 1) greatest32 v) }
  | .century => return { p with century := ← agree? p.century (← between? 0 greatest32 v) }
  | .yearOfCentury =>
    return { p with yearOfCentury := ← agree? p.yearOfCentury (← between? 0 99 v) }
  | .isoYear =>
    return { p with isoYear := ← agree? p.isoYear (← between? (-greatest32 - 1) greatest32 v) }
  | .isoYearOfCentury =>
    return { p with isoYearOfCentury := ← agree? p.isoYearOfCentury (← between? 0 99 v) }
  | .quarter => return { p with quarter := ← agree? p.quarter (← between? 1 4 v) }
  | .month => return { p with month := ← agree? p.month (← between? 1 12 v) }
  | .day => return { p with day := ← agree? p.day (← between? 1 31 v) }
  | .weekFromSunday =>
    return { p with weekFromSunday := ← agree? p.weekFromSunday (← between? 0 53 v) }
  | .weekFromMonday =>
    return { p with weekFromMonday := ← agree? p.weekFromMonday (← between? 0 53 v) }
  | .isoWeek => return { p with isoWeek := ← agree? p.isoWeek (← between? 1 53 v) }
  | .weekdayFromSunday => p.setWeekday? (((← between? 0 6 v) + 6) % 7)
  | .weekdayFromMonday => p.setWeekday? ((← between? 1 7 v) - 1)
  | .ordinal => return { p with ordinal := ← agree? p.ordinal (← between? 1 366 v) }
  | .hour => p.setHour? v
  | .hourOfHalf =>
    return { p with hourOfHalf := ← agree? p.hourOfHalf ((← between? 1 12 v) % 12) }
  | .minute => return { p with minute := ← agree? p.minute (← between? 0 59 v) }
  | .second => return { p with second := ← agree? p.second (← between? 0 60 v) }
  | .nanosecond =>
    return { p with nanosecond := ← agree? p.nanosecond (← between? 0 999999999 v) }
  | .timestamp => return { p with timestamp := ← agree? p.timestamp v }

def setHalf? (p : Parts) (v : Int) : Option Parts := do
  return { p with half := ← agree? p.half v }

def setOffset? (p : Parts) (v : Int) : Option Parts := do
  return { p with offset := ← agree? p.offset v }

end Parts

def skipBlanks (cs : List Char) : List Char :=
  cs.dropWhile Text.isBlank

/-- The greatest number of 64 bits. -/
def greatest64 : Nat := 2 ^ 63 - 1

/-- The number that at most `width` digits denote after those that gave `n`; `count` digits have
been read, and `least` have to be there. -/
def scanDigits? (least : Nat) : Nat → Nat → Nat → List Char → Option (Nat × Nat × List Char)
  | 0, count, n, cs => some (n, count, cs)
  | width + 1, count, n, cs =>
    match cs with
    | [] => if count < least then none else some (n, count, [])
    | c :: rest =>
      match digitValue? c with
      | none => if count < least then none else some (n, count, cs)
      | some d =>
        if greatest64 < n * 10 + d then none
        else scanDigits? least width (count + 1) (n * 10 + d) rest

/-- A number of at least `least` and at most `greatest` digits. -/
def scanNumber? (least greatest : Nat) (cs : List Char) : Option (Nat × List Char) :=
  (scanDigits? least greatest 0 0 cs).map fun (n, _, rest) => (n, rest)

/-- The digits that a numeric part may have where it has no sign. A count of seconds may be of any
length. -/
def Field.width (input : List Char) : Field → Nat
  | .year | .isoYear => 4
  | .quarter | .weekdayFromSunday | .weekdayFromMonday => 1
  | .ordinal => 3
  | .nanosecond => 9
  | .timestamp => input.length
  | _ => 2

/-- Whether a numeric part may have a sign, which also lets it have any number of digits. -/
def Field.signed : Field → Bool
  | .year | .isoYear => true
  | _ => false

def scanField? (field : Field) (cs : List Char) : Option (Int × List Char) :=
  match field.signed, cs with
  | true, '-' :: rest => (scanNumber? 1 (rest.length + 1) rest).map fun (n, r) => (-(n : Int), r)
  | true, '+' :: rest => (scanNumber? 1 (rest.length + 1) rest).map fun (n, r) => ((n : Int), r)
  | _, _ => (scanNumber? 1 (field.width cs + (if cs.isEmpty then 1 else 0)) cs).map
      fun (n, r) => ((n : Int), r)

/-- A fraction of a second, in nanoseconds; digits beyond the ninth are dropped. -/
def scanFraction? (cs : List Char) : Option (Int × List Char) := do
  let (n, count, rest) ← scanDigits? 1 9 0 0 cs
  return ((n * 10 ^ (9 - count) : Nat), rest.dropWhile fun c => (digitValue? c).isSome)

/-- A fraction of a second of exactly `width` digits, in nanoseconds. -/
def scanFixedFraction? (width : Nat) (cs : List Char) : Option (Int × List Char) :=
  (scanNumber? width width cs).map fun (n, rest) => ((n * 10 ^ (9 - width) : Nat), rest)

/-- The rest of the input after `word`, whatever the case of its letters. -/
def scanWord? : List Char → List Char → Option (List Char)
  | [], cs => some cs
  | _ :: _, [] => none
  | w :: word, c :: cs => if w = c.toLower then scanWord? word cs else none

def monthNames : List (String × String) :=
  [("jan", "uary"), ("feb", "ruary"), ("mar", "ch"), ("apr", "il"), ("may", ""), ("jun", "e"),
   ("jul", "y"), ("aug", "ust"), ("sep", "tember"), ("oct", "ober"), ("nov", "ember"),
   ("dec", "ember")]

def weekdayNames : List (String × String) :=
  [("mon", "day"), ("tue", "sday"), ("wed", "nesday"), ("thu", "rsday"), ("fri", "day"),
   ("sat", "urday"), ("sun", "day")]

/-- The index of the name at the start of the input, counted from `index`. Of a long name the
letters after the third are taken if all of them are there. -/
def scanName? (long : Bool) (index : Int) :
    List (String × String) → List Char → Option (Int × List Char)
  | [], _ => none
  | (short, others) :: names, cs =>
    match scanWord? short.toList cs with
    | none => scanName? long (index + 1) names cs
    | some rest =>
      if long then some (index, (scanWord? others.toList rest).getD rest) else some (index, rest)

/-- The value of two digits, the first of which is at most `top`. -/
def scanTwoDigits? (top : Nat) : List Char → Option (Int × List Char)
  | a :: b :: rest => do
    let m ← digitValue? a
    let n ← digitValue? b
    if top < m then none else some ((m * 10 + n : Nat), rest)
  | _ => none

/-- The minutes of an offset; where they may be missing, so may they only at the end of the
input. -/
def scanOffsetMinutes? (mayLack : Bool) (cs : List Char) : Option (Int × List Char) :=
  if mayLack && cs.isEmpty then some (0, []) else scanTwoDigits? 5 cs

/-- An offset from universal time, in seconds: a sign, hours, whatever `separator` takes, and
minutes. The sign may be a hyphen or a minus sign. -/
def scanOffset? (separator : List Char → Option (List Char)) (zulu mayLackMinutes : Bool)
    (cs : List Char) : Option (Int × List Char) := do
  if zulu then
    match cs with
    | 'Z' :: rest => return (0, rest)
    | 'z' :: rest => return (0, rest)
    | _ => pure ()
  let (sign, rest) ← match cs with
    | '+' :: rest => some ((1 : Int), rest)
    | '-' :: rest => some (-1, rest)
    | '\u2212' :: rest => some (-1, rest)
    | _ => none
  let (hours, rest) ← scanTwoDigits? 9 rest
  let rest ← separator rest
  let (minutes, rest) ← scanOffsetMinutes? mayLackMinutes rest
  return (sign * (hours * 3600 + minutes * 60), rest)

def colonsOrBlanks (cs : List Char) : Option (List Char) :=
  some (cs.dropWhile fun c => c == ':' || Text.isBlank c)

def oneColon : List Char → Option (List Char)
  | ':' :: rest => some rest
  | _ => none

def dateTimeMark : List Char → Option (List Char)
  | 'T' :: rest => some rest
  | 't' :: rest => some rest
  | ' ' :: rest => some rest
  | _ => none

/-- The parts with a literal character, blanks, a number or a fraction of a second read. -/
def scanSimple? (p : Parts) (item : PatternItem) (cs : List Char) : Option (Parts × List Char) := do
  match item with
  | .literal c =>
    match cs with
    | d :: rest => if c = d then some (p, rest) else none
    | [] => none
  | .blanks => some (p, skipBlanks cs)
  | .number field =>
    let (v, rest) ← scanField? field (skipBlanks cs)
    return (← p.set? field v, rest)
  | .fraction width =>
    match cs with
    | '.' :: rest =>
      let (v, rest) ← match width with
        | none => scanFraction? rest
        | some w => scanFixedFraction? w rest
      return (← p.set? .nanosecond v, rest)
    | _ => some (p, cs)
  | _ => none

def scanSimples? (p : Parts) : List PatternItem → List Char → Option (Parts × List Char)
  | [], cs => some (p, cs)
  | item :: items, cs => do
    let (p, rest) ← scanSimple? p item cs
    scanSimples? p items rest

/-- The date of an Internet time with blanks allowed between its parts. -/
def internetDateItems : List PatternItem :=
  [.number .year, .blanks, .literal '-', .number .month, .blanks, .literal '-', .number .day]

/-- The time of day of an Internet time with blanks allowed between its parts. -/
def internetClockItems : List PatternItem :=
  [.number .hour, .blanks, .literal ':', .number .minute, .blanks, .literal ':', .number .second,
   .fraction none, .blanks]

/-- A date and time in the form of the Internet, with blanks between its parts; the offset may also
be `Z` or `UTC`. -/
def scanInternetTime? (p : Parts) (cs : List Char) : Option (Parts × List Char) := do
  let (p, rest) ← scanSimples? p internetDateItems cs
  let rest ← dateTimeMark rest
  let (p, rest) ← scanSimples? p internetClockItems rest
  let rest := skipBlanks rest
  let (offset, rest) ← match scanWord? "utc".toList rest with
    | some rest => some (0, rest)
    | none => scanOffset? colonsOrBlanks true false rest
  return (← p.setOffset? offset, rest)

/-- The parts with one item of a pattern read. -/
def scanItem? (p : Parts) (item : PatternItem) (cs : List Char) : Option (Parts × List Char) := do
  match item with
  | .monthName long =>
    let (month, rest) ← scanName? long 1 monthNames cs
    return (← p.set? .month month, rest)
  | .weekdayName long =>
    let (weekday, rest) ← scanName? long 0 weekdayNames cs
    return (← p.setWeekday? weekday, rest)
  | .halfDay =>
    match scanWord? ['a', 'm'] cs, scanWord? ['p', 'm'] cs with
    | some rest, _ => return (← p.setHalf? 0, rest)
    | _, some rest => return (← p.setHalf? 1, rest)
    | none, none => none
  | .bareFraction width =>
    let (v, rest) ← scanFixedFraction? width cs
    return (← p.set? .nanosecond v, rest)
  | .zoneName => some (p, cs.dropWhile fun c => !Text.isBlank c)
  | .offset lenient =>
    let (v, rest) ← scanOffset? colonsOrBlanks lenient lenient (skipBlanks cs)
    return (← p.setOffset? v, rest)
  | .internetTime => scanInternetTime? p cs
  | .unknown => none
  | item => scanSimple? p item cs

/-- The parts with the items of a pattern read, and the rest of the input. -/
def scanItems? (p : Parts) : List PatternItem → List Char → Option (Parts × List Char)
  | [], cs => some (p, cs)
  | item :: items, cs => do
    let (p, rest) ← scanItem? p item cs
    scanItems? p items rest

/-- The parts that a text gives under a pattern that takes up all of it. -/
def scan? (items : List PatternItem) (input : List Char) : Option Parts := do
  match ← scanItems? {} items input with
  | (p, []) => some p
  | _ => none

end FlagBinding.Time
