import FlagBinding.Target.Code
import FlagBinding.Typeset

/-!
# Layout of emitted code

Code in lines of limited width: what does not fit on a line is spread over several, an argument to a
line, with a comma after the last one.

## Main definitions

* `Expr.pieces`, `Stmt.pieces`, `Method.pieces`: code as pieces to be laid out.
* `layOut`: the text of a list of implementations.
-/

namespace FlagBinding.Target

open Piece

/-- The depth of an indentation. -/
def step : Int := 4

/-- A group whose gaps are breaks together. -/
def box (offset : Int) (pieces : List Piece) : Piece := .group true offset pieces

/-- Items in a group, with a comma after each; the one after the last shows only at a break. -/
def spread : List (List Piece) → List Piece
  | [] => []
  | [item] => item ++ [commaBreak (-step)]
  | item :: rest => item ++ [.word ",", .gap { blank := 1 }] ++ spread rest

def enclosed (start ending : String) (indent : Int) (items : List (List Piece)) : List Piece :=
  if items.isEmpty then [.word start, .word ending]
  else [.word start, box indent (softBreak :: spread items), .word ending]

/-- Whether an expression is a name no longer than an indentation, after which a line is not
broken. -/
def Expr.isShortName : Expr → Bool
  | .path text => text.utf8ByteSize ≤ 4 && !text.toList.contains ':'
  | _ => false

def arguments (args : List (List Piece)) : List Piece :=
  enclosed "(" ")" step args

/-- A break before a dot, unless a short name stands at the beginning of a line. -/
def dotBreak (lineStart : Bool) (base : Expr) : List Piece :=
  if lineStart && base.isShortName then [] else [softBreak]

mutual

/-- The pieces of an expression; `lineStart` says whether it begins a line. -/
def Expr.pieces (lineStart : Bool) : Expr → List Piece
  | .path text => [.word text]
  | .literal text => [.word text]
  | .field base name =>
      [box step (base.chain lineStart ++ dotBreak lineStart base ++ [.word ("." ++ name)])]
  | .call function args =>
    function.pieces lineStart ++ arguments (Expr.piecesAll args)
  | .method receiver name args =>
    let outset := if lineStart && receiver.isShortName then -step else 0
    [box step (receiver.chain lineStart ++ dotBreak lineStart receiver ++
      [.word ("." ++ name), box outset (arguments (Expr.piecesAll args))])]
  | .borrow isMutable e => .word (borrowMark isMutable) :: e.pieces false
  | .tuple elements => enclosed "(" ")" step (Expr.piecesAll elements)
  | .array elements => enclosed "[" "]" step (Expr.piecesAll elements)
  | .propagate e => e.pieces lineStart ++ [.word "?"]

/-- The pieces of an expression inside a chain of fields and calls. -/
def Expr.chain (lineStart : Bool) : Expr → List Piece
  | .path text => [box (-step) [.word text]]
  | .literal text => [box (-step) [.word text]]
  | .field base name => base.chain lineStart ++ dotBreak lineStart base ++ [.word ("." ++ name)]
  | .call function args =>
    function.chain false ++ arguments (Expr.piecesAll args)
  | .method receiver name args =>
    receiver.chain lineStart ++ dotBreak lineStart receiver ++
      [.word ("." ++ name), box 0 (arguments (Expr.piecesAll args))]
  | .borrow isMutable e => [box (-step) (.word (borrowMark isMutable) :: e.pieces false)]
  | .tuple elements => [box (-step) (enclosed "(" ")" step (Expr.piecesAll elements))]
  | .array elements => [box (-step) (enclosed "[" "]" step (Expr.piecesAll elements))]
  | .propagate e => e.chain lineStart ++ [.word "?"]

def Expr.piecesAll : List Expr → List (List Piece)
  | [] => []
  | e :: rest => e.pieces false :: Expr.piecesAll rest

end

mutual

def TypeExpr.pieces : TypeExpr → List Piece
  | .lifetime name => [.word name]
  | .path text [] => [.word text]
  | .path text args => .word text :: enclosed "<" ">" step (TypeExpr.piecesAll args)
  | .borrow isMutable type => .word (borrowMark isMutable) :: type.pieces
  | .unit => [.word "()"]

def TypeExpr.piecesAll : List TypeExpr → List (List Piece)
  | [] => []
  | t :: rest => t.pieces :: TypeExpr.piecesAll rest

end

/-- Lines between two breaks; the last one goes back to where the group began. -/
def linesOf : List (List Piece) → List Piece
  | [] => []
  | [line] => line ++ [hardBreak (-step)]
  | line :: rest => line ++ [hardBreak] ++ linesOf rest

def braced (lines : List (List Piece)) : List Piece :=
  if lines.isEmpty then [.word "\x7b", .word "\x7d"]
  else [.word "\x7b", hardBreak] ++ linesOf lines ++ [.word "\x7d"]

mutual

/-- The pieces of a statement. -/
def Stmt.pieces : Stmt → List Piece
  | .define name value =>
    [.group false 0 ([.word ("let " ++ name ++ " = ")] ++ value.pieces false ++ [.word ";"])]
  | .run e => [.group false 0 (e.pieces true ++ [.word ";"])]
  | .assign target value =>
    [.group false 0 ([.group false 0
      (target.pieces false ++ [.word " = "] ++ value.pieces false)] ++
      [.word ";"])]
  | .block body => [box step (braced (Stmt.piecesAll body))]
  | .answer e => e.pieces true

def Stmt.piecesAll : List Stmt → List (List Piece)
  | [] => []
  | s :: rest => s.pieces :: Stmt.piecesAll rest

end

namespace Method

def resultPieces (m : Method) : List Piece :=
  match m.result with
  | some type => [box (-step) (.word " -> " :: type.pieces)]
  | none => []

/-- The pieces of a function. -/
def pieces (m : Method) : List Piece :=
  let generics :=
    if m.lifetimes.isEmpty then [] else enclosed "<" ">" 0 (m.lifetimes.map fun l => [.word l])
  let params := [.word m.receiver] :: m.params.map fun (name, type) =>
    .word (name ++ ": ") :: type.pieces
  m.docs.flatMap (fun doc => [.word ("///" ++ doc), hardBreak]) ++
    m.attributes.flatMap (fun a => [.word ("#[" ++ a ++ "]"), hardBreak]) ++
    [box step ([.word ("fn " ++ m.name)] ++ generics ++
      [.word "(", .gap { fixed := true }, box 0 (softBreak :: spread params), .word ")"] ++
      m.resultPieces ++ [.word " "] ++ braced (Stmt.piecesAll m.body))]

end Method

def Impl.pieces (i : Impl) : List Piece :=
  [box step ([.group false (-step) [box step [.word "impl"], .word (" " ++ i.trait), blank,
    .word ("for " ++ i.type)], .word " \x7b", hardBreak] ++ i.method.pieces ++
    [hardBreak (-step), .word "\x7d"]), hardBreak]

def layOut (impls : List Impl) : String :=
  Piece.layOut (impls.flatMap Impl.pieces)

end FlagBinding.Target
