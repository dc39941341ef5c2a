import FlagBinding.Number.Floating

/-!
# The fewest digits that read back

A binary number is written with the fewest decimal digits that no other number of its format is
nearer to. The numbers that round to it form an interval; on each decimal grid, from the coarsest
on, the two neighbours of the number are tried, and the first grid with a neighbour in the interval
gives the digits.

## Main definitions

* `Decimal`: digits and a power of ten.
* `Tie`: what becomes of a number halfway between two neighbours that both read back.
* `shortest`: the digits of a positive finite number.
-/

namespace FlagBinding.Number

/-- The number `digits * 10 ^ exponent`. -/
structure Decimal where
  digits : Nat
  exponent : Int
  deriving DecidableEq, Repr

/-- Which neighbour a number takes from which both are equally far. -/
inductive Tie
  | up
  | even
  deriving DecidableEq

/-- The positive numbers that round to one binary number, over a common denominator. -/
structure RoundingInterval where
  low : Nat
  value : Nat
  high : Nat
  denominator : Nat
  /-- Whether the ends round to the number too. -/
  closed : Bool

/-- The interval of `m * 2 ^ q`. Below a power of two the gap is half as wide. -/
def RoundingInterval.of (format : FloatFormat) (m : Nat) (q : Int) : RoundingInterval :=
  let (up, down) := powerOfTwo (q - 2)
  let below := if m = 2 ^ (format.precision - 1) ∧ format.leastExponent < q then 1 else 2
  ⟨(4 * m - below) * up, 4 * m * up, (4 * m + 2) * up, down, m % 2 == 0⟩

def RoundingInterval.holds (i : RoundingInterval) (d : Decimal) : Bool :=
  let x := d.digits * 10 ^ d.exponent.toNat * i.denominator
  let scale := 10 ^ (-d.exponent).toNat
  let low := i.low * scale
  let high := i.high * scale
  if i.closed then low ≤ x && x ≤ high else low < x && x < high

/-- The neighbour to take of the two around the value on the grid of `10 ^ exponent`, if one reads
back. -/
def RoundingInterval.onGrid? (i : RoundingInterval) (tie : Tie) (exponent : Int) : Option Decimal :=
  let num := i.value * 10 ^ (-exponent).toNat
  let den := i.denominator * 10 ^ exponent.toNat
  let whole := num / den
  let rest := 2 * (num % den)
  let down : Decimal := ⟨whole, exponent⟩
  let up : Decimal := ⟨whole + 1, exponent⟩
  match i.holds down, i.holds up with
  | false, false => none
  | true, false => some down
  | false, true => some up
  | true, true =>
    if rest < den then some down
    else if den < rest then some up
    else if tie = .even ∧ whole % 2 = 0 then some down
    else some up

/-- The first grid with a neighbour that reads back, from the grid of `10 ^ exponent` on; `grids` is
how many are tried. -/
def RoundingInterval.search (i : RoundingInterval) (tie : Tie) (exponent : Int) : Nat → Decimal
  | 0 => ⟨0, 0⟩
  | grids + 1 =>
    match i.onGrid? tie exponent with
    | some d => d
    | none => i.search tie (exponent - 1) grids

/-- The greatest `e` with `10 ^ e ≤ num / den`, for a positive quotient; the estimate from the
number of digits is at most one too high. -/
def decimalOrder (num den : Nat) : Int :=
  let e : Int := (Nat.toDigits 10 num).length - (Nat.toDigits 10 den).length
  if den * 10 ^ e.toNat ≤ num * 10 ^ (-e).toNat then e else e - 1

/-- The decimal without trailing zeros among its digits; `fuel` bounds their number. -/
def Decimal.normalize (d : Decimal) : Nat → Decimal
  | 0 => d
  | fuel + 1 =>
    if d.digits ≠ 0 ∧ d.digits % 10 = 0 then normalize ⟨d.digits / 10, d.exponent + 1⟩ fuel else d

/-- The fewest digits that read back as `m * 2 ^ q` with `0 < m`, and of those the nearest ones.
Eighteen grids are enough for every number of 64 bits. -/
def shortest (format : FloatFormat) (tie : Tie) (m : Nat) (q : Int) : Decimal :=
  let i := RoundingInterval.of format m q
  (i.search tie (decimalOrder i.value i.denominator) 18).normalize 18

end FlagBinding.Number
