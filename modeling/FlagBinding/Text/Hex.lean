import FlagBinding.Text.Quoted

/-!
# Hexadecimal bytes

Two digits for each byte: upper case in the writer, either case in the reader.

## Main definitions

* `Hex.encode`: the digits of a byte string.
* `Hex.decode`: the byte string of digits, or the first fault.
-/

namespace FlagBinding.Text.Hex

/-- Why a list of symbols stands for no byte string. -/
inductive Fault
  | oddLength
  | invalidDigit (symbol : UInt8) (position : Nat)
  deriving DecidableEq, Repr

/-- The wording of a fault. A symbol is shown as the character with its number. -/
def Fault.message : Fault → String
  | .oddLength => "Odd number of digits"
  | .invalidDigit b i =>
    "Invalid character " ++ Quoted.character (Char.ofNat b.toNat) ++ " at position " ++ toString i

/-- The upper-case digit of a number below 16. -/
def digit (n : Nat) : Char :=
  Char.ofNat (if n < 10 then n + 48 else n + 55)

/-- The number of a digit of either case. -/
def value? (b : UInt8) : Option Nat :=
  let n := b.toNat
  if 48 ≤ n ∧ n ≤ 57 then some (n - 48)
  else if 65 ≤ n ∧ n ≤ 70 then some (n - 55)
  else if 97 ≤ n ∧ n ≤ 102 then some (n - 87)
  else none

def encode (bytes : List UInt8) : List Char :=
  bytes.flatMap fun b => [digit (b.toNat / 16), digit (b.toNat % 16)]

def valueAt (position : Nat) (b : UInt8) : Except Fault Nat :=
  match value? b with
  | some v => .ok v
  | none => .error (.invalidDigit b position)

def decodeFrom (position : Nat) : List UInt8 → Except Fault (List UInt8)
  | a :: b :: rest => do
    let high ← valueAt position a
    let low ← valueAt (position + 1) b
    return UInt8.ofNat (high * 16 + low) :: (← decodeFrom (position + 2) rest)
  | _ => .ok []

/-- The byte string of a list of digits, of which there have to be an even number. -/
def decode (symbols : List UInt8) : Except Fault (List UInt8) :=
  if symbols.length % 2 = 1 then .error .oddLength else decodeFrom 0 symbols

end FlagBinding.Text.Hex
