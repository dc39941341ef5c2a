/-!
# Typesetting

A text is laid out from pieces: words, gaps and groups. A gap is a blank of some width or else a
line break. In a group that fits on the rest of the line no gap is a break; in any other group
either all gaps are breaks, or only those before a piece that does not fit.

## Main definitions

* `Piece`: words, gaps and groups.
* `Pen`: a text under construction.
* `Piece.layOut`: the text of a list of pieces.
-/

namespace FlagBinding

/-- A place where a line may be broken. -/
structure Gap where
  /-- How wide the gap is without a break. -/
  blank : Nat := 0
  /-- How far the next line is indented beyond its group. -/
  offset : Int := 0
  /-- Whether a break has a comma in front of it. -/
  comma : Bool := false
  /-- Whether the gap is never a break. -/
  fixed : Bool := false
  deriving DecidableEq, Repr

/-- A part of a text that is laid out. -/
inductive Piece
  | word (text : String)
  | gap (gap : Gap)
  /-- Pieces whose gaps are breaks together (`whole`) or one by one, and whose lines are indented by
  `offset`. -/
  | group (whole : Bool) (offset : Int) (pieces : List Piece)

namespace Piece

/-- The width of a line, and the least room that a line has however far it is indented. -/
def lineWidth : Int := 89

@[inherit_doc lineWidth]
def leastRoom : Int := 60

/-- The width of a gap that no line has room for. -/
def hardWidth : Nat := 0xffff

/-- A gap that is always a break. -/
def hardBreak (offset : Int := 0) : Piece := .gap { blank := hardWidth, offset }

/-- A gap of no width. -/
def softBreak (offset : Int := 0) : Piece := .gap { offset }

/-- A gap of no width that gets a comma when it is a break. -/
def commaBreak (offset : Int := 0) : Piece := .gap { offset, comma := true }

/-- A blank that may be a break. -/
def blank : Piece := .gap { blank := 1 }

mutual

def width : Piece → Nat
  | word text => text.utf8ByteSize
  | gap g => g.blank
  | group _ _ pieces => widthAll pieces

def widthAll : List Piece → Nat
  | [] => 0
  | p :: rest => p.width + widthAll rest

end

/-- The width up to the next gap outside of groups, if `after` follows the pieces. -/
def reach (after : Nat) : List Piece → Nat
  | [] => after
  | word text :: rest => text.utf8ByteSize + reach after rest
  | gap _ :: _ => 0
  | group _ _ pieces :: rest => widthAll pieces + reach after rest

end Piece

/-- A text under construction. -/
structure Pen where
  /-- The text so far, without the blanks that are still to come. -/
  text : String := ""
  /-- How many blanks stand in front of the next word. -/
  pending : Nat := 0
  /-- How much room is left on the line. -/
  room : Int := Piece.lineWidth

namespace Pen

def indentation (pen : Pen) : String :=
  String.ofList (List.replicate pen.pending ' ')

def write (pen : Pen) (s : String) : Pen :=
  { text := pen.text ++ pen.indentation ++ s, pending := 0, room := pen.room - s.utf8ByteSize }

def skip (pen : Pen) (n : Nat) : Pen :=
  { pen with pending := pen.pending + n, room := pen.room - n }

def newLine (pen : Pen) (indent : Int) : Pen where
  text := pen.text ++ "\n"
  pending := indent.toNat
  room := max (Piece.lineWidth - indent) Piece.leastRoom

end Pen

/-- How the gaps of a group are laid out. -/
inductive GapMode
  /-- The group fits on the line. -/
  | blanks
  /-- Every gap is a break. -/
  | breaks
  /-- A gap is a break if what follows it does not fit. -/
  | fill
  deriving DecidableEq

namespace Piece

/-- Whether a gap is a break, if the width up to the next gap is `size`. -/
def breaksAt (mode : GapMode) (pen : Pen) (g : Gap) (size : Nat) : Bool :=
  !g.fixed && match mode with
    | .blanks => false
    | .breaks => true
    | .fill => pen.room < size

/-- A gap, if the width up to the next gap is `size`. -/
def putGap (mode : GapMode) (indent : Int) (pen : Pen) (g : Gap) (size : Nat) : Pen :=
  if breaksAt mode pen g size then
    let pen := if g.comma then pen.write "," else pen
    pen.newLine (indent + g.offset)
  else pen.skip g.blank

mutual

/-- Put down a piece which is followed by `after` up to the next gap. -/
def put (mode : GapMode) (indent : Int) (after : Nat) (pen : Pen) : Piece → Pen
  | word text => pen.write text
  | gap g => putGap mode indent pen g (g.blank + after)
  | group whole offset pieces =>
    if pen.room < (widthAll pieces + after : Nat) then
      putAll (if whole then .breaks else .fill) (indent + offset) after pen pieces
    else putAll .blanks indent after pen pieces

/-- Put down pieces which are followed by `after` up to the next gap. -/
def putAll (mode : GapMode) (indent : Int) (after : Nat) (pen : Pen) : List Piece → Pen
  | [] => pen
  | p :: rest => putAll mode indent after (put mode indent (reach after rest) pen p) rest

end

def layOut (pieces : List Piece) : String :=
  (putAll .fill 0 0 {} pieces).text

end Piece

end FlagBinding
