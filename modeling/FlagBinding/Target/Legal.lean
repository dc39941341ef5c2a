import FlagBinding.Number.FloatText
import FlagBinding.Target.Code
import FlagBinding.Target.Name
import FlagBinding.Text.Table.Identifier

/-!
# Legal code

Names and paths come from a schema and from a parameter, and not every text is one. Legal code is
brought to a form in which paths have no blanks and positions of a tuple are plain numbers.

## Main definitions

* `isName`: the texts that are names.
* `canonicalPath?`, `canonicalMember?`: legal paths and fields.
* `Impl.canonical?`: an implementation, if it is legal.
-/

namespace FlagBinding.Target

open Number Text

/-- A character that a name may start with. -/
def startsName (c : Char) : Bool :=
  if c.toNat < 128 then c.isAlpha || c == '_' else inRuns identifierStartRuns c

/-- A character that a name may go on with. -/
def continuesName (c : Char) : Bool :=
  if c.toNat < 128 then c.isAlphanum || c == '_' else inRuns identifierContinueRuns c

/-- Whether a text has the form of a name; a lone underscore has not. -/
def isWord : List Char → Bool
  | [] => false
  | c :: rest => startsName c && rest.all continuesName && (c :: rest) != ['_']

def pathKeywords : List String := ["self", "super", "crate", "Self"]

/-- Whether a keyword has a meaning in the syntax of code. -/
def isReserved (word : String) : Bool :=
  word != "gen" && (strictKeywords.contains word || keywords.contains word)

/-- Whether a text is a name: a word that is no keyword, or one that is marked as raw. -/
def isName (s : String) : Bool :=
  match stripStart? rawMark.toList s.toList with
  | some word => isWord word && !pathKeywords.contains (String.ofList word)
  | none => isWord s.toList && !isReserved s

def isSegment (s : String) : Bool :=
  isName s || pathKeywords.contains s

def segments : List Char → List (List Char)
  | [] => [[]]
  | ':' :: ':' :: rest => [] :: segments rest
  | c :: rest =>
    match segments rest with
    | [] => [[c]]
    | piece :: more => (c :: piece) :: more

/-- The path without blanks, if it is legal. It may start with a double colon. -/
def canonicalPath? (path : String) : Option String :=
  let names := (segments path.toList).map fun piece => trimBlanks (String.ofList piece)
  let named := match names with
    | "" :: rest => rest
    | _ => names
  if !named.isEmpty && named.all isSegment then some (join "::" names) else none

/-- The value of a digit of some base, or of an underscore, which does not count. -/
def positionDigits? (base : Nat) (value : Nat) : List Char → Option Nat
  | [] => some value
  | '_' :: rest => positionDigits? base value rest
  | c :: rest =>
    let digit := if c.isDigit then c.toNat - 48 else if c.isLower then c.toNat - 87 else base
    if digit < base then positionDigits? base (value * base + digit) rest else none

/-- The position of a tuple that a text names. -/
def position? (s : List Char) : Option Nat :=
  let found := match s with
    | '0' :: 'x' :: rest => if rest.all (· == '_') then none else positionDigits? 16 0 rest
    | '0' :: 'o' :: rest => if rest.all (· == '_') then none else positionDigits? 8 0 rest
    | '0' :: 'b' :: rest => if rest.all (· == '_') then none else positionDigits? 2 0 rest
    | c :: _ => if c.isDigit then positionDigits? 10 0 s else none
    | [] => none
  found.filter (· < 2 ^ 32)

def canonicalMember? (s : String) : Option String :=
  if isName s then some s else (position? s.toList).map decimalNat

mutual

/-- The legal form of an expression. -/
def Expr.canonical? : Expr → Option Expr
  | .path text => Expr.path <$> canonicalPath? text
  | .literal text => some (.literal text)
  | .field base name => do return .field (← base.canonical?) (← canonicalMember? name)
  | .call function args => do return .call (← function.canonical?) (← Expr.canonicalAll? args)
  | .method receiver name args => do
    return .method (← receiver.canonical?) name (← Expr.canonicalAll? args)
  | .borrow isMutable e => do return .borrow isMutable (← e.canonical?)
  | .tuple elements => do return .tuple (← Expr.canonicalAll? elements)
  | .array elements => do return .array (← Expr.canonicalAll? elements)
  | .propagate e => do return .propagate (← e.canonical?)

def Expr.canonicalAll? : List Expr → Option (List Expr)
  | [] => some []
  | e :: rest => do return (← e.canonical?) :: (← Expr.canonicalAll? rest)

end

mutual

def Stmt.canonical? : Stmt → Option Stmt
  | .define name value => do return .define name (← value.canonical?)
  | .run e => do return .run (← e.canonical?)
  | .assign target value => do return .assign (← target.canonical?) (← value.canonical?)
  | .block body => do return .block (← Stmt.canonicalAll? body)
  | .answer e => do return .answer (← e.canonical?)

def Stmt.canonicalAll? : List Stmt → Option (List Stmt)
  | [] => some []
  | s :: rest => do return (← s.canonical?) :: (← Stmt.canonicalAll? rest)

end

mutual

def TypeExpr.canonical? : TypeExpr → Option TypeExpr
  | .lifetime name => some (.lifetime name)
  | .path text args => do return .path (← canonicalPath? text) (← TypeExpr.canonicalAll? args)
  | .borrow isMutable type => do return .borrow isMutable (← type.canonical?)
  | .unit => some .unit

def TypeExpr.canonicalAll? : List TypeExpr → Option (List TypeExpr)
  | [] => some []
  | t :: rest => do return (← t.canonical?) :: (← TypeExpr.canonicalAll? rest)

end

/-- The legal form of a line of documentation: it ends where the line ends. -/
def canonicalDoc? (doc : String) : Option String :=
  if doc.toList.any fun c => c == '\n' || c == '\r' then none
  else some (String.ofList (trimEnd (· == ' ') doc.toList))

/-- The legal form of a function. -/
def Method.canonical? (m : Method) : Option Method := do
  let docs ← m.docs.mapM canonicalDoc?
  let params ← m.params.mapM fun (name, type) => do return (name, ← type.canonical?)
  let result ← match m.result with
    | some type => some <$> type.canonical?
    | none => some none
  let body ← Stmt.canonicalAll? m.body
  return { m with docs, params, result, body }

def Impl.canonical? (i : Impl) : Option Impl := do
  return ⟨← canonicalPath? i.trait, ← canonicalPath? i.type, ← i.method.canonical?⟩

end FlagBinding.Target
