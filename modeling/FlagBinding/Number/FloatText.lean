import FlagBinding.Number.Shortest
import FlagBinding.Number.Decimal

/-!
# Floating-point numbers as text

Numbers are written with the fewest digits that read back; a `FloatStyle` says where the point goes.
They are read from a decimal with an optional fraction and exponent, or from the words for an
infinity and for what is not a number.

## Main definitions

* `FloatStyle`, `FloatStyle.render`: a way to write a number.
* `FloatStyle.plain`, `FloatStyle.literal`: positional always; positional in a middle range.
* `readFloat`: the number of a text.
-/

namespace FlagBinding.Number

/-- How the shortest digits of a number are laid out. `point` is the place of the decimal point
counted from the first digit. -/
structure FloatStyle where
  /-- Whether the digits are written around the point, and not with an exponent. -/
  positional : Int → Bool
  /-- Whether a whole number keeps a zero after the point. -/
  keepsPoint : Bool
  /-- Whether a positive exponent has a sign. -/
  signsExponent : Bool
  tie : Tie

namespace FloatStyle

/-- Never an exponent, and a point only where there is a fraction. -/
def plain : FloatStyle := ⟨fun _ => true, false, false, .up⟩

/-- An exponent below `10 ^ -4` and from `10 ^ 16` on; elsewhere at least one digit after the
point. -/
def literal : FloatStyle := ⟨fun point => -3 ≤ point && point ≤ 16, true, false, .up⟩

def around (style : FloatStyle) (ds : List Char) (point : Int) : List Char :=
  if point ≤ 0 then ['0', '.'] ++ List.replicate (-point).toNat '0' ++ ds
  else if ds.length ≤ point.toNat then
    ds ++ List.replicate (point.toNat - ds.length) '0' ++
      (if style.keepsPoint then ['.', '0'] else [])
  else ds.take point.toNat ++ ['.'] ++ ds.drop point.toNat

/-- The digits with one of them before the point, and an exponent. -/
def scientific (style : FloatStyle) (ds : List Char) (point : Int) : List Char :=
  let exponent := point - 1
  let sign := if style.signsExponent && 0 ≤ exponent then ['+'] else []
  ds.take 1 ++ (if ds.length ≤ 1 then [] else '.' :: ds.drop 1) ++ ['e'] ++ sign ++
    (decimal exponent).toList

def magnitude (style : FloatStyle) (format : FloatFormat) (m : Nat) (q : Int) : List Char :=
  if m = 0 then (if style.keepsPoint then ['0', '.', '0'] else ['0'])
  else
    let d := shortest format style.tie m q
    let ds := digits d.digits
    let point := d.exponent + ds.length
    if style.positional point then style.around ds point else style.scientific ds point

/-- A number; an infinity and what is not a number have names. -/
def render (style : FloatStyle) {format : FloatFormat} : Floating format → String
  | .nan => "NaN"
  | .infinite negative => if negative then "-inf" else "inf"
  | .finite negative m q =>
    String.ofList ((if negative then ['-'] else []) ++ style.magnitude format m q)

end FloatStyle

/-- Why a text is no floating-point number. -/
inductive FloatFault
  | empty
  | invalid
  deriving DecidableEq, Repr

def FloatFault.message : FloatFault → String
  | .empty => "cannot parse float from empty string"
  | .invalid => "invalid float literal"

/-- Whether two texts agree up to the case of ASCII letters. -/
def sameWord (a b : List Char) : Bool :=
  a.map Char.toLower == b.map Char.toLower

def spanDigits (cs : List Char) : List Char × List Char :=
  cs.span fun c => (digitValue? c).isSome

def natOfDigits (ds : List Char) : Nat :=
  ds.foldl (fun n c => n * 10 + (c.toNat - '0'.toNat)) 0

/-- An exponent that takes up the whole text. -/
def readExponent? (cs : List Char) : Option Int :=
  let (negative, ds) := match cs with
    | '-' :: ds => (true, ds)
    | '+' :: ds => (false, ds)
    | ds => (false, ds)
  match spanDigits ds with
  | ([], _) => none
  | (ds, []) => some (if negative then -(natOfDigits ds : Int) else natOfDigits ds)
  | _ => none

/-- An unsigned decimal: digits with at most one point, at least one digit, and perhaps an
exponent. -/
def readDecimal? (cs : List Char) : Option Decimal :=
  let (whole, rest) := spanDigits cs
  let (fraction, rest) := match rest with
    | '.' :: rest => spanDigits rest
    | rest => ([], rest)
  if whole.isEmpty && fraction.isEmpty then none
  else
    let value := natOfDigits (whole ++ fraction)
    let places : Int := fraction.length
    match rest with
    | [] => some ⟨value, -places⟩
    | c :: rest =>
      if c == 'e' || c == 'E' then (readExponent? rest).map fun e => ⟨value, e - places⟩ else none

/-- An unsigned number. -/
def readMagnitude? (format : FloatFormat) (negative : Bool) (cs : List Char) :
    Option (Floating format) :=
  match readDecimal? cs with
  | some d => some (.ofDecimal negative d.digits d.exponent)
  | none =>
    if sameWord cs ['i', 'n', 'f'] || sameWord cs "infinity".toList then some (.infinite negative)
    else if sameWord cs ['n', 'a', 'n'] then some .nan
    else none

/-- The number that a text denotes; a decimal beyond the largest number becomes an infinity. -/
def readFloat (format : FloatFormat) (s : String) : Except FloatFault (Floating format) :=
  let found := match s.toList with
    | '-' :: cs => readMagnitude? format true cs
    | '+' :: cs => readMagnitude? format false cs
    | cs => readMagnitude? format false cs
  match found with
  | some x => .ok x
  | none => .error (if s.isEmpty then .empty else .invalid)

end FlagBinding.Number
