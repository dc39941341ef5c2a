/-!
# Base64

Bytes in the standard alphabet with padding. The reader refuses whatever the writer does not
produce, and says which byte is wrong: a symbol outside the alphabet, a padding mark that is out of
place, or a last symbol with bits beyond the last byte.

## Main definitions

* `Base64.encode`: the symbols of a byte string.
* `Base64.decode`: the byte string of symbols, or the first fault.
-/

namespace FlagBinding.Text.Base64

/-- Why a list of symbols stands for no byte string. -/
inductive Fault
  | invalidSymbol (symbol : UInt8) (offset : Nat)
  | invalidLength (length : Nat)
  | invalidLastSymbol (symbol : UInt8) (offset : Nat)
  | invalidPadding
  deriving DecidableEq, Repr

def Fault.message : Fault → String
  | .invalidSymbol b i =>
    "Invalid symbol " ++ toString b.toNat ++ ", offset " ++ toString i ++ "."
  | .invalidLength n => "Invalid input length: " ++ toString n
  | .invalidLastSymbol b i =>
    "Invalid last symbol " ++ toString b.toNat ++ ", offset " ++ toString i ++ "."
  | .invalidPadding => "Invalid padding"

def pad : UInt8 := 61

/-- The symbol of a number below 64. -/
def symbol (n : Nat) : UInt8 :=
  UInt8.ofNat
    (if n < 26 then n + 65 else if n < 52 then n + 71 else if n < 62 then n - 4
     else if n = 62 then 43 else 47)

/-- The number of a symbol. -/
def value? (b : UInt8) : Option Nat :=
  let n := b.toNat
  if 65 ≤ n ∧ n ≤ 90 then some (n - 65)
  else if 97 ≤ n ∧ n ≤ 122 then some (n - 71)
  else if 48 ≤ n ∧ n ≤ 57 then some (n + 4)
  else if n = 43 then some 62
  else if n = 47 then some 63
  else none

/-- The symbols of a byte string. -/
def encode : List UInt8 → List UInt8
  | a :: b :: c :: rest =>
    let n := (a.toNat * 256 + b.toNat) * 256 + c.toNat
    symbol (n / 262144) :: symbol (n / 4096 % 64) :: symbol (n / 64 % 64) :: symbol (n % 64) ::
      encode rest
  | [a, b] =>
    let n := a.toNat * 256 + b.toNat
    [symbol (n / 1024), symbol (n / 16 % 64), symbol (n % 16 * 4), pad]
  | [a] => [symbol (a.toNat / 4), symbol (a.toNat % 4 * 16), pad, pad]
  | [] => []

def valueAt (offset : Nat) (b : UInt8) : Except Fault Nat :=
  match value? b with
  | some v => .ok v
  | none => .error (.invalidSymbol b offset)

/-- The three bytes of four numbers below 64. -/
def bytesOf (a b c d : Nat) : List UInt8 :=
  let n := ((a * 64 + b) * 64 + c) * 64 + d
  [UInt8.ofNat (n / 65536), UInt8.ofNat (n / 256), UInt8.ofNat n]

/-- What the last group of symbols holds: the numbers before the padding, and the padding. -/
structure Ending where
  values : List Nat
  lastSymbol : UInt8
  pads : Nat

/-- The contents of the last group from its symbol number `index` on. A padding mark may stand only
after the second symbol, and nothing else after a padding mark. -/
def readEnding (offset index : Nat) (e : Ending) : List UInt8 → Except Fault Ending
  | [] => .ok e
  | b :: rest =>
    if b = pad then
      if index < 2 then .error (.invalidSymbol b (offset + index))
      else readEnding offset (index + 1) { e with pads := e.pads + 1 } rest
    else if 0 < e.pads then .error (.invalidSymbol pad (offset + index - e.pads))
    else do
      let v ← valueAt (offset + index) b
      readEnding offset (index + 1) { e with values := e.values ++ [v], lastSymbol := b } rest

/-- The bytes of the last group of symbols. -/
def decodeEnding (offset : Nat) (symbols : List UInt8) : Except Fault (List UInt8) := do
  let e ← readEnding offset 0 ⟨[], 0, 0⟩ symbols
  let count := e.values.length
  if count < 2 then .error (.invalidLength (offset + count))
  else if (e.pads + count) % 4 ≠ 0 then .error .invalidPadding
  else
    let last := .error (.invalidLastSymbol e.lastSymbol (offset + count - 1))
    match e.values with
    | [a, b] => if b % 16 = 0 then .ok ((bytesOf a b 0 0).take 1) else last
    | [a, b, c] => if c % 4 = 0 then .ok ((bytesOf a b c 0).take 2) else last
    | [a, b, c, d] => .ok (bytesOf a b c d)
    | _ => .error .invalidPadding

/-- The bytes of the symbols from an offset on: groups of four without padding, and a last group. -/
def decodeFrom (offset : Nat) : List UInt8 → Except Fault (List UInt8)
  | [] => .ok []
  | a :: b :: c :: d :: next :: rest => do
    let w ← valueAt offset a
    let x ← valueAt (offset + 1) b
    let y ← valueAt (offset + 2) c
    let z ← valueAt (offset + 3) d
    return bytesOf w x y z ++ (← decodeFrom (offset + 4) (next :: rest))
  | symbols => decodeEnding offset symbols

/-- The byte string of a list of symbols. A stray symbol at the very end, such as a line break, is
reported before anything else. -/
def decode (symbols : List UInt8) : Except Fault (List UInt8) :=
  match symbols.getLast? with
  | some b =>
    if symbols.length % 4 = 1 ∧ b ≠ pad ∧ value? b = none then
      .error (.invalidSymbol b (symbols.length - 1))
    else decodeFrom 0 symbols
  | none => .ok []

end FlagBinding.Text.Base64
