import FlagBinding.Number.Power

/-!
# Integers in decimal

Integers are written without leading zeros and read from an optional sign and decimal digits. The
reader says why it refuses a text: it is empty, it holds something that is no digit, or the number
passes a bound. Digits are looked at from left to right, and the first cause that shows wins.

## Main definitions

* `decimal`, `decimalNat`: the text of an integer.
* `readInt`: the integer of a text, between two bounds.
-/

namespace FlagBinding.Number

def digits (n : Nat) : List Char :=
  Nat.toDigits 10 n

def decimalNat (n : Nat) : String :=
  String.ofList (digits n)

def decimal : Int → String
  | .ofNat n => decimalNat n
  | .negSucc n => String.ofList ('-' :: digits (n + 1))

/-- The decimal digits of a natural number, with zeros in front up to a width. -/
def paddedDigits (width n : Nat) : List Char :=
  let ds := digits n
  List.replicate (width - ds.length) '0' ++ ds

def digitValue? (c : Char) : Option Nat :=
  if '0' ≤ c ∧ c ≤ '9' then some (c.toNat - '0'.toNat) else none

/-- Why a text is no integer of a range. -/
inductive IntFault
  | empty
  | invalidDigit
  | tooLarge
  | tooSmall
  deriving DecidableEq, Repr

def IntFault.message : IntFault → String
  | .empty => "cannot parse integer from empty string"
  | .invalidDigit => "invalid digit found in string"
  | .tooLarge => "number too large to fit in target type"
  | .tooSmall => "number too small to fit in target type"

/-- The number that the digits continue from `acc`, refused with `overflow` once it passes
`limit`. -/
def readDigits (overflow : IntFault) (limit : Nat) (acc : Nat) : List Char → Except IntFault Nat
  | [] => .ok acc
  | c :: rest =>
    match digitValue? c with
    | none => .error .invalidDigit
    | some d =>
      if limit < acc * 10 + d then .error overflow
      else readDigits overflow limit (acc * 10 + d) rest

/-- The digits of a number of which at least one has to be there. -/
def readSomeDigits (overflow : IntFault) (limit : Nat) (ds : List Char) : Except IntFault Nat :=
  if ds.isEmpty then .error .invalidDigit else readDigits overflow limit 0 ds

/-- The integer that a list of characters denotes, at most `greatest` and, where negative numbers
are allowed, at least `-lowest`. Without negative numbers a minus sign is no digit. -/
def readIntChars (lowest greatest : Nat) (cs : List Char) : Except IntFault Int :=
  match cs with
  | [] => .error .empty
  | '+' :: ds => Int.ofNat <$> readSomeDigits .tooLarge greatest ds
  | '-' :: ds =>
    if lowest = 0 then .error .invalidDigit
    else (fun n => -(n : Int)) <$> readSomeDigits .tooSmall lowest ds
  | ds => Int.ofNat <$> readDigits .tooLarge greatest 0 ds

/-- The integer that a text denotes, between `-lowest` and `greatest`. -/
def readInt (lowest greatest : Nat) (s : String) : Except IntFault Int :=
  readIntChars lowest greatest s.toList

end FlagBinding.Number
