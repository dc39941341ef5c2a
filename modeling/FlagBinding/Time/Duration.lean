import FlagBinding.Number.Decimal

/-!
# Durations

A duration is a count of seconds and a count of nanoseconds. As text it is a signed sum of
components, each a decimal with a unit: `1h30m`, `-1.5s`, `300ms`.

## Main definitions

* `Duration`: seconds and nanoseconds; `Duration.total` and `Duration.ofTotal` in nanoseconds.
* `Duration.parseTotal`: the nanoseconds that a text denotes.
* `Duration.formatTotal`: the canonical text of a number of nanoseconds.
-/

namespace FlagBinding.Time

open Number

/-- A signed span of time. -/
structure Duration where
  seconds : Int64
  nanos : Int32
  deriving DecidableEq

def nanosPerSecond : Nat := 1000000000

/-- The units of a duration. -/
inductive TimeUnit
  | nanosecond
  | microsecond
  | millisecond
  | second
  | minute
  | hour
  deriving DecidableEq, Repr

namespace TimeUnit

def nanos : TimeUnit → Nat
  | .nanosecond => 1
  | .microsecond => 1000
  | .millisecond => 1000000
  | .second => nanosPerSecond
  | .minute => 60 * nanosPerSecond
  | .hour => 3600 * nanosPerSecond

/-- The unit at the start of a text; a microsecond has three spellings. -/
def read? : List Char → Option (TimeUnit × List Char)
  | 'n' :: 's' :: rest => some (.nanosecond, rest)
  | 'u' :: 's' :: rest => some (.microsecond, rest)
  | 'µ' :: 's' :: rest => some (.microsecond, rest)
  | 'μ' :: 's' :: rest => some (.microsecond, rest)
  | 'm' :: 's' :: rest => some (.millisecond, rest)
  | 's' :: rest => some (.second, rest)
  | 'm' :: rest => some (.minute, rest)
  | 'h' :: rest => some (.hour, rest)
  | _ => none

theorem read?_length {cs rest : List Char} {u : TimeUnit} (h : read? cs = some (u, rest)) :
    rest.length < cs.length := by
  unfold read? at h
  split at h <;> grind

end TimeUnit

namespace Duration

/-- Why a text is no duration. -/
inductive Fault
  | empty
  | noComponent
  | noNumber
  | outOfRange
  deriving DecidableEq, Repr

def Fault.message : Fault → String
  | .empty => "empty duration"
  | .noComponent => "expected a number followed by one of ns, us, µs, ms, s, m, h"
  | .noNumber => "missing number before unit"
  | .outOfRange => "value out of range"

/-- A decimal with a unit. -/
structure Component where
  whole : List Char
  fraction : List Char
  unit : TimeUnit

def isDigit (c : Char) : Bool :=
  (digitValue? c).isSome

/-- The digits after a point at the start of a text, if there is a point. -/
def readFraction (cs : List Char) : List Char × List Char :=
  match cs with
  | '.' :: rest => (rest.takeWhile isDigit, rest.dropWhile isDigit)
  | _ => ([], cs)

def readComponent? (cs : List Char) : Option (Component × List Char) :=
  let (fraction, rest) := readFraction (cs.dropWhile isDigit)
  (TimeUnit.read? rest).map fun (unit, rest) => (⟨cs.takeWhile isDigit, fraction, unit⟩, rest)

theorem readFraction_length (cs : List Char) : (readFraction cs).2.length ≤ cs.length := by
  unfold readFraction
  split
  · rename_i rest
    exact Nat.le_succ_of_le (List.dropWhile_sublist isDigit).length_le
  · exact Nat.le_refl _

theorem readComponent?_length {cs rest : List Char} {c : Component}
    (h : readComponent? cs = some (c, rest)) : rest.length < cs.length := by
  simp only [readComponent?, Option.map_eq_some_iff, Prod.mk.injEq, Prod.exists] at h
  obtain ⟨u, r, hr, -, rfl⟩ := h
  have h1 := TimeUnit.read?_length hr
  have h2 := readFraction_length (cs.dropWhile isDigit)
  have h3 := (List.dropWhile_sublist isDigit (l := cs)).length_le
  omega

/-- The nanoseconds of the digits after a point in a unit of `scale` nanoseconds. Each digit is
worth a tenth of the one before it; the first digit worth less than a nanosecond ends the count. -/
def fractionNanos (scale : Nat) : List Char → Nat
  | [] => 0
  | c :: rest =>
    let worth := scale / 10
    if worth = 0 then 0 else (c.toNat - '0'.toNat) * worth + fractionNanos worth rest

def Component.nanos (c : Component) : Nat :=
  c.whole.foldl (fun n d => n * 10 + (d.toNat - '0'.toNat)) 0 * c.unit.nanos +
    fractionNanos c.unit.nanos c.fraction

def greatestWidth : Nat := 20

/-- The sum of `total` and the components that take up the text, at most `limit`. -/
def sumFrom (limit total : Nat) (cs : List Char) : Except Fault Nat :=
  if cs.isEmpty then .ok total
  else match h : readComponent? cs with
    | none => .error .noComponent
    | some (c, rest) =>
      if c.whole.isEmpty && c.fraction.isEmpty then .error .noNumber
      else if greatestWidth < c.whole.length then .error .outOfRange
      else if limit < total + c.nanos then .error .outOfRange
      else
        have := readComponent?_length h
        sumFrom limit (total + c.nanos) rest
termination_by cs.length

/-- The nanoseconds of an unsigned text, at most `limit`. A lone zero needs no unit. -/
def magnitude (limit : Nat) (cs : List Char) : Except Fault Nat :=
  if cs = ['0'] then .ok 0
  else if cs.isEmpty then .error .empty
  else sumFrom limit 0 cs

/-- The nanoseconds that a text denotes, as a signed number of 64 bits. -/
def parseChars (cs : List Char) : Except Fault Int :=
  match cs with
  | '-' :: rest => (fun n => -(n : Int)) <$> magnitude (2 ^ 63) rest
  | '+' :: rest => Int.ofNat <$> magnitude (2 ^ 63 - 1) rest
  | _ => Int.ofNat <$> magnitude (2 ^ 63 - 1) cs

/-- The nanoseconds that a text denotes. -/
def parseTotal (s : String) : Except Fault Int :=
  parseChars s.toList

/-- `value / 10 ^ places` as a decimal without trailing zeros. -/
def scaled (value places : Nat) : List Char :=
  let fraction := value % 10 ^ places
  digits (value / 10 ^ places) ++
    (if fraction = 0 then []
     else '.' :: ((paddedDigits places fraction).reverse.dropWhile (· == '0')).reverse)

/-- The canonical text of a positive number of nanoseconds: below a second in the greatest unit that
fits, from a second on in hours, minutes and seconds without leading zeros. -/
def formatMagnitude (n : Nat) : List Char :=
  if n < 1000 then digits n ++ ['n', 's']
  else if n < 1000000 then scaled n 3 ++ ['µ', 's']
  else if n < nanosPerSecond then scaled n 6 ++ ['m', 's']
  else
    let seconds := n / nanosPerSecond
    let hours := seconds / 3600
    let minutes := seconds / 60 % 60
    let clock :=
      if 0 < hours then digits hours ++ ['h'] ++ digits minutes ++ ['m']
      else if 0 < minutes then digits minutes ++ ['m']
      else []
    clock ++ scaled (seconds % 60 * nanosPerSecond + n % nanosPerSecond) 9 ++ ['s']

/-- The canonical text of a number of nanoseconds. -/
def formatTotal (n : Int) : String :=
  if n = 0 then "0s"
  else String.ofList ((if n < 0 then ['-'] else []) ++ formatMagnitude n.natAbs)

def total (d : Duration) : Int :=
  d.seconds.toInt * nanosPerSecond + d.nanos.toInt

/-- The duration of a number of nanoseconds, with both parts on the same side of zero. -/
def ofTotal (n : Int) : Duration :=
  ⟨Int64.ofInt (n.tdiv nanosPerSecond), Int32.ofInt (n.tmod nanosPerSecond)⟩

end Duration

end FlagBinding.Time
