import FlagBinding.Number.Power

/-!
# Binary floating-point numbers

A finite number is kept as its sign, its significand and its exponent, in the one form in which the
significand has all the bits of the format unless the exponent is the least one. Rounding is to
nearest, ties to even, in exact arithmetic on natural numbers.

## Main definitions

* `FloatFormat`: the width of the significand and the range of exponents; `single` and `double`.
* `Floating`: not a number, an infinity, or a finite number of a format.
* `Floating.ofRatio`, `Floating.ofDecimal`: the nearest number to a quotient or a decimal.
* `Floating.ofBits`: the number that an interchange encoding stands for.
-/

namespace FlagBinding.Number

/-- A binary format: a finite number is `m * 2 ^ q` with `m < 2 ^ precision` and `q` between the two
exponents. -/
structure FloatFormat where
  precision : Nat
  leastExponent : Int
  greatestExponent : Int
  deriving DecidableEq, Repr

namespace FloatFormat

/-- Numbers of 32 bits. -/
def single : FloatFormat := ⟨24, -149, 104⟩

/-- Numbers of 64 bits. -/
def double : FloatFormat := ⟨53, -1074, 971⟩

end FloatFormat

/-- A number of a binary format. -/
inductive Floating (format : FloatFormat)
  | nan
  | infinite (negative : Bool)
  | finite (negative : Bool) (significand : Nat) (exponent : Int)
  deriving DecidableEq, Repr

def powerOfTwo (q : Int) : Nat × Nat :=
  (2 ^ q.toNat, 2 ^ (-q).toNat)

/-- The quotient rounded to the nearest natural number, a half to the even neighbour. -/
def roundDiv (num den : Nat) : Nat :=
  let whole := num / den
  let rest := 2 * (num % den)
  if rest < den then whole
  else if den < rest then whole + 1
  else if whole % 2 = 0 then whole else whole + 1

/-- The greatest `e` with `2 ^ e ≤ num / den`, for a positive quotient. -/
def binaryOrder (num den : Nat) : Int :=
  let e : Int := (Nat.log2 num : Int) - Nat.log2 den
  let (up, down) := powerOfTwo e
  if den * up ≤ num * down then e else e - 1

namespace Floating

variable {format : FloatFormat}

/-- Zero of either sign. -/
def zero (negative : Bool) : Floating format :=
  .finite negative 0 format.leastExponent

/-- The number nearest to `num / den`, or an infinity if that is beyond the largest one. -/
def ofRatio (negative : Bool) (num den : Nat) : Floating format :=
  if num = 0 then zero negative
  else
    let q := max format.leastExponent (binaryOrder num den + 1 - format.precision)
    let (up, down) := powerOfTwo q
    let m := roundDiv (num * down) (den * up)
    let (m, q) := if m = 2 ^ format.precision then (m / 2, q + 1) else (m, q)
    if format.greatestExponent < q then .infinite negative else .finite negative m q

/-- The number nearest to `significand * 10 ^ exponent`. Decimals far outside the range of every
format are decided by their order of magnitude alone. -/
def ofDecimal (negative : Bool) (significand : Nat) (exponent : Int) : Floating format :=
  if significand = 0 then zero negative
  else
    let order := exponent + (Nat.toDigits 10 significand).length
    if order < -400 then zero negative
    else if 400 < order then .infinite negative
    else ofRatio negative (significand * 10 ^ exponent.toNat) (10 ^ (-exponent).toNat)

/-- The number whose interchange encoding has the given sign, exponent field and fraction field;
`top` is the greatest exponent field. -/
def ofFields (negative : Bool) (top exponentField fraction : Nat) : Floating format :=
  if exponentField = top then
    if fraction = 0 then .infinite negative else .nan
  else if exponentField = 0 then .finite negative fraction format.leastExponent
  else
    .finite negative (2 ^ (format.precision - 1) + fraction)
      (format.leastExponent + (exponentField - 1))

/-- The single number of a 32-bit encoding. -/
def ofBits32 (bits : Nat) : Floating .single :=
  ofFields (bits / 2 ^ 31 % 2 == 1) 255 (bits / 2 ^ 23 % 256) (bits % 2 ^ 23)

/-- The double number of a 64-bit encoding. -/
def ofBits64 (bits : Nat) : Floating .double :=
  ofFields (bits / 2 ^ 63 % 2 == 1) 2047 (bits / 2 ^ 52 % 2048) (bits % 2 ^ 52)

def convert {target : FloatFormat} : Floating format → Floating target
  | .nan => .nan
  | .infinite negative => .infinite negative
  | .finite negative m q =>
    let (up, down) := powerOfTwo q
    ofRatio negative (m * up) down

def isInfinite : Floating format → Bool
  | .infinite _ => true
  | _ => false

def neg : Floating format → Floating format
  | .nan => .nan
  | .infinite negative => .infinite (!negative)
  | .finite negative m q => .finite (!negative) m q

end Floating

end FlagBinding.Number
