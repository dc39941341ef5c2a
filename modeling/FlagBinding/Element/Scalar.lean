import FlagBinding.Element.Codec

/-!
# Codecs of scalars

Integers of four widths, floating-point numbers of two, truth values and texts.
-/

namespace FlagBinding.Codec

open Number

/-- The codec of integers between `-lowest` and `greatest`, through a type of exactly these. -/
def integer {α : Type} (kind : String) (lowest greatest : Nat) (ofInt : Int → α)
    (toInt : α → Int) : Codec α where
  kind := kind
  decode input :=
    match readInt lowest greatest input with
    | .ok n => .ok (ofInt n)
    | .error fault => .error (.invalid kind input (.integer fault))
  encode x := decimal (toInt x)
  zero := "0"

/-- Signed integers of 32 bits. -/
def int32 : Codec Int32 :=
  integer "int32" (2 ^ 31) (2 ^ 31 - 1) Int32.ofInt Int32.toInt

/-- Signed integers of 64 bits. -/
def int64 : Codec Int64 :=
  integer "int64" (2 ^ 63) (2 ^ 63 - 1) Int64.ofInt Int64.toInt

/-- Unsigned integers of 32 bits. -/
def uint32 : Codec UInt32 :=
  integer "uint32" 0 (2 ^ 32 - 1) (fun n => UInt32.ofNat n.toNat) (fun x => x.toNat)

/-- Unsigned integers of 64 bits. -/
def uint64 : Codec UInt64 :=
  integer "uint64" 0 (2 ^ 64 - 1) (fun n => UInt64.ofNat n.toNat) (fun x => x.toNat)

/-- Whether a text names an infinity, whatever signs stand in front. -/
def namesInfinity (input : String) : Bool :=
  let word := input.toList.dropWhile fun c => c == '+' || c == '-'
  sameWord word ['i', 'n', 'f'] || sameWord word "infinity".toList

/-- The codec of floating-point numbers. Only the name of an infinity gives one; a decimal beyond
the largest number is refused. -/
def floating (kind : String) (format : FloatFormat) : Codec (Floating format) where
  kind := kind
  decode input :=
    match readFloat format input with
    | .ok x =>
      if x.isInfinite && !namesInfinity input then .error (.invalid kind input .beyondRange)
      else .ok x
    | .error fault => .error (.invalid kind input (.float fault))
  encode x := FloatStyle.plain.render x
  zero := "0"

/-- Floating-point numbers of 32 bits. -/
def single : Codec (Floating .single) :=
  floating "float32" .single

/-- Floating-point numbers of 64 bits. -/
def double : Codec (Floating .double) :=
  floating "float64" .double

def trueWords : List String := ["1", "t", "T", "true", "TRUE", "True"]

def falseWords : List String := ["0", "f", "F", "false", "FALSE", "False"]

/-- Truth values. A flag without a value means true. -/
def bool : Codec Bool where
  kind := "bool"
  decode input :=
    if trueWords.contains input then .ok true
    else if falseWords.contains input then .ok false
    else .error (.invalid "bool" input .notBool)
  encode b := if b then "true" else "false"
  zero := "false"
  implicit := some "true"

def text : Codec String where
  kind := "string"
  decode input := .ok input
  encode s := s

end FlagBinding.Codec
