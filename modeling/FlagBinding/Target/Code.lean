import FlagBinding.Text.Trim

/-!
# Emitted code

The little of the target language that bindings are made of, and its text with a statement to a
line.

## Main definitions

* `Expr`, `Stmt`, `TypeExpr`: expressions, statements and types.
* `Method`, `Impl`: a function of an implementation, and the implementation of a trait by a type.
* `Impl.text`: the text of an implementation.
-/

namespace FlagBinding.Target

/-- An expression. -/
inductive Expr
  | path (text : String)
  | literal (text : String)
  | field (base : Expr) (name : String)
  | call (function : Expr) (args : List Expr)
  | method (receiver : Expr) (name : String) (args : List Expr)
  | borrow (isMutable : Bool) (e : Expr)
  | tuple (elements : List Expr)
  | array (elements : List Expr)
  /-- The value of a result; a failure ends the function. -/
  | propagate (e : Expr)

/-- A statement. -/
inductive Stmt
  | define (name : String) (value : Expr)
  | run (e : Expr)
  | assign (target value : Expr)
  | block (body : List Stmt)
  /-- The answer of a function, at its end. -/
  | answer (e : Expr)

/-- A type. -/
inductive TypeExpr
  | lifetime (name : String)
  | path (text : String) (args : List TypeExpr)
  | borrow (isMutable : Bool) (type : TypeExpr)
  | unit

/-- A function of an implementation. -/
structure Method where
  /-- The lines of its documentation. -/
  docs : List String := []
  attributes : List String := []
  name : String
  lifetimes : List String := []
  receiver : String
  params : List (String × TypeExpr) := []
  result : Option TypeExpr := none
  body : List Stmt

/-- The implementation of a trait by a type. -/
structure Impl where
  trait : String
  type : String
  method : Method

def borrowMark (isMutable : Bool) : String :=
  if isMutable then "&mut " else "&"

def commas (texts : List String) : String :=
  Text.join ", " texts

mutual

/-- The text of an expression. -/
def Expr.text : Expr → String
  | .path text => text
  | .literal text => text
  | .field base name => base.text ++ "." ++ name
  | .call function args => function.text ++ "(" ++ commas (Expr.texts args) ++ ")"
  | .method receiver name args =>
    receiver.text ++ "." ++ name ++ "(" ++ commas (Expr.texts args) ++ ")"
  | .borrow isMutable e => borrowMark isMutable ++ e.text
  | .tuple elements => "(" ++ commas (Expr.texts elements) ++ ")"
  | .array elements => "[" ++ commas (Expr.texts elements) ++ "]"
  | .propagate e => e.text ++ "?"

def Expr.texts : List Expr → List String
  | [] => []
  | e :: rest => e.text :: Expr.texts rest

end

mutual

def TypeExpr.text : TypeExpr → String
  | .lifetime name => name
  | .path text [] => text
  | .path text args => text ++ "<" ++ commas (TypeExpr.texts args) ++ ">"
  | .borrow isMutable type => borrowMark isMutable ++ type.text
  | .unit => "()"

def TypeExpr.texts : List TypeExpr → List String
  | [] => []
  | t :: rest => t.text :: TypeExpr.texts rest

end

def indented (level : Nat) (line : String) : String :=
  String.ofList (List.replicate (4 * level) ' ') ++ line

mutual

def Stmt.lines (level : Nat) : Stmt → List String
  | .define name value => [indented level ("let " ++ name ++ " = " ++ value.text ++ ";")]
  | .run e => [indented level (e.text ++ ";")]
  | .assign target value => [indented level (target.text ++ " = " ++ value.text ++ ";")]
  | .block body =>
    [indented level "\x7b"] ++ Stmt.linesAll (level + 1) body ++ [indented level "\x7d"]
  | .answer e => [indented level e.text]

def Stmt.linesAll (level : Nat) : List Stmt → List String
  | [] => []
  | s :: rest => s.lines level ++ Stmt.linesAll level rest

end

namespace Method

def generics (m : Method) : String :=
  if m.lifetimes.isEmpty then "" else "<" ++ commas m.lifetimes ++ ">"

/-- The first line of a function. -/
def head (m : Method) : String :=
  let params := m.receiver :: m.params.map fun (name, type) => name ++ ": " ++ type.text
  let result := match m.result with
    | some type => " -> " ++ type.text
    | none => ""
  "fn " ++ m.name ++ m.generics ++ "(" ++ commas params ++ ")" ++ result ++ " \x7b"

def lines (m : Method) : List String :=
  m.docs.map (fun doc => indented 1 ("///" ++ doc)) ++
    m.attributes.map (fun a => indented 1 ("#[" ++ a ++ "]")) ++
    [indented 1 m.head] ++ Stmt.linesAll 2 m.body ++ [indented 1 "\x7d"]

end Method

def Impl.text (i : Impl) : String :=
  Text.join "\n"
    (["impl " ++ i.trait ++ " for " ++ i.type ++ " \x7b"] ++ i.method.lines ++ ["\x7d"])

end FlagBinding.Target
