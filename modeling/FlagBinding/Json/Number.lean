import FlagBinding.Json.Value

/-!
# JSON numbers

A number without fraction and exponent that fits into 64 bits is an integer. Any other number is a
double, computed from the first digits, as many as fit into 64 bits, and one division or
multiplication by a power of ten; a number beyond the largest double is refused.

## Main definitions

* `Json.scanNumber?`: the number at the start of a text.
-/

namespace FlagBinding.Json

open Number

/-- The greatest number of 64 bits. -/
def greatestWord : Nat := 2 ^ 64 - 1

/-- A finite double without its sign, as a quotient of natural numbers. -/
def ratioOf? : Floating .double → Option (Nat × Nat)
  | .finite _ m q => some (m * (powerOfTwo q).1, (powerOfTwo q).2)
  | _ => none

/-- The double nearest to a power of ten, as a quotient. -/
def powerOfTen (power : Nat) : Nat × Nat :=
  (ratioOf? (.ofRatio false (10 ^ power) 1)).getD (1, 1)

/-- The product of a nonnegative double and a power of ten below `10 ^ 309`, rounded. -/
def timesPower (x : Floating .double) (power : Nat) : Floating .double :=
  match ratioOf? x, powerOfTen power with
  | some (num, den), (num', den') => .ofRatio false (num * num') (den * den')
  | none, _ => x

/-- The quotient of a nonnegative double by a power of ten below `10 ^ 309`, rounded. -/
def overPower (x : Floating .double) (power : Nat) : Floating .double :=
  match ratioOf? x, powerOfTen power with
  | some (num, den), (num', den') => .ofRatio false (num * den') (den * num')
  | none, _ => x

/-- Whether a double is zero. -/
def isZero : Floating .double → Bool
  | .finite _ m _ => m == 0
  | _ => false

/-- The greatest power of ten that a double is multiplied or divided by at once. -/
def greatestPower : Nat := 308

/-- `x / 10 ^ power`, by repeated division; `steps` bounds how often the greatest power is taken. A
number that has become zero stays so. -/
def divideDown (x : Floating .double) (power : Nat) : Nat → Floating .double
  | 0 => x
  | steps + 1 =>
    if power ≤ greatestPower then overPower x power
    else if isZero x then x
    else divideDown (overPower x greatestPower) (power - greatestPower) steps

/-- The double of the digits `significand` and a power of ten, unless it is too large. -/
def assemble? (negative : Bool) (significand : Nat) (exponent : Int) : Option (Floating .double) :=
  let x : Floating .double := .ofRatio false significand 1
  let found : Option (Floating .double) :=
    if 0 ≤ exponent then
      if exponent ≤ greatestPower then
        let y := timesPower x exponent.toNat
        if y.isInfinite then none else some y
      else if isZero x then some x
      else none
    else some (divideDown x (-exponent).toNat 4)
  found.map fun y => if negative then y.neg else y

/-- Digits are added to `significand` until they no longer fit into 64 bits. The answer holds the
number of digits added, whether some did not fit, and what follows all of the digits. -/
def takeDigits (significand count : Nat) : List Char → Nat × Nat × Bool × List Char
  | [] => (significand, count, false, [])
  | c :: rest =>
    match digitValue? c with
    | none => (significand, count, false, c :: rest)
    | some d =>
      if greatestWord < significand * 10 + d then
        (significand, count, true, (c :: rest).dropWhile fun c => (digitValue? c).isSome)
      else takeDigits (significand * 10 + d) (count + 1) rest

/-- The greatest exponent that is read in full. -/
def greatestExponent : Nat := 2 ^ 31 - 1

/-- The number with an exponent, of which the letter has been read. -/
def scanExponent? (negative : Bool) (significand : Nat) (exponent : Int) (cs : List Char) :
    Option (Floating .double × List Char) :=
  let (down, cs) := match cs with
    | '+' :: rest => (false, rest)
    | '-' :: rest => (true, rest)
    | _ => (false, cs)
  match spanDigits cs with
  | ([], _) => none
  | (ds, rest) =>
    let e := natOfDigits ds
    if greatestExponent < e then
      if significand ≠ 0 ∧ !down then none else some (.zero negative, rest)
    else
      (assemble? negative significand (if down then exponent - e else exponent + e)).map (·, rest)

/-- The number whose digits have been read, with the exponent that may follow. -/
def scanTail? (negative : Bool) (significand : Nat) (exponent : Int) (cs : List Char) :
    Option (Floating .double × List Char) :=
  match cs with
  | 'e' :: rest => scanExponent? negative significand exponent rest
  | 'E' :: rest => scanExponent? negative significand exponent rest
  | _ => (assemble? negative significand exponent).map (·, cs)

/-- The number with a fraction, of which the point has been read. -/
def scanFraction? (negative : Bool) (significand : Nat) (exponent : Int) (cs : List Char) :
    Option (Floating .double × List Char) :=
  match takeDigits significand 0 cs with
  | (n, count, overflow, rest) =>
    if count = 0 ∧ !overflow then none else scanTail? negative n (exponent - count) rest

/-- An unsigned integer part has no leading zeros. -/
def leadingZero : List Char → Bool
  | '0' :: c :: _ => (digitValue? c).isSome
  | _ => false

/-- The number at the start of a text, after its sign. -/
def scanUnsigned? (negative : Bool) (cs : List Char) : Option (Value × List Char) :=
  if leadingZero cs || (spanDigits cs).1.isEmpty then none
  else
    let (n, count, overflow, rest) := takeDigits 0 0 cs
    let dropped : Int := if overflow then (spanDigits cs).1.length - count else 0
    let asFloat (found : Option (Floating .double × List Char)) :=
      found.map fun (x, rest) => (Value.float x, rest)
    match rest with
    | '.' :: rest => asFloat (scanFraction? negative n dropped rest)
    | 'e' :: rest => asFloat (scanExponent? negative n dropped rest)
    | 'E' :: rest => asFloat (scanExponent? negative n dropped rest)
    | _ =>
      if overflow then asFloat ((assemble? negative n dropped).map (·, rest))
      else if !negative then some (.integer n, rest)
      else if n = 0 ∨ 2 ^ 63 < n then some (.float (.ofRatio true n 1), rest)
      else some (.integer (-n), rest)

def scanNumber? (cs : List Char) : Option (Value × List Char) :=
  match cs with
  | '-' :: rest => scanUnsigned? true rest
  | _ => scanUnsigned? false cs

end FlagBinding.Json
