import FlagBinding.Json.Value

/-!
# JSON documents

A document keeps the members of its objects in the order in which they are written. It has two
texts: one without blanks, and one with every element on a line of its own.

## Main definitions

* `Json.Tree`: a document.
* `Json.Tree.compact`, `Json.Tree.pretty`: its texts.
-/

namespace FlagBinding.Json

/-- A document to be written. -/
inductive Tree
  /-- A value that is written as it stands. -/
  | leaf (text : String)
  | array (elements : List Tree)
  | object (members : List (String × Tree))

namespace Tree

/-- The document of the value that stands for nothing. -/
def null : Tree := .leaf "null"

def bool (b : Bool) : Tree := .leaf (if b then "true" else "false")

def integer (n : Int) : Tree := .leaf (Number.decimal n)

def string (s : String) : Tree := .leaf (quote s)

def strings (texts : List String) : Tree := .array (texts.map string)

def optional {α : Type} (f : α → Tree) : Option α → Tree
  | some x => f x
  | none => null

/-- An object with a single member, which tells one variant from the others. -/
def tagged (tag : String) (body : Tree) : Tree := .object [(tag, body)]

mutual

def compact : Tree → String
  | leaf text => text
  | array elements => enclose "[" "]" (compactAll elements)
  | object members => enclose "\x7b" "\x7d" (compactMembers members)

def compactAll : List Tree → List String
  | [] => []
  | t :: rest => t.compact :: compactAll rest

def compactMembers : List (String × Tree) → List String
  | [] => []
  | (name, t) :: rest => member name t.compact :: compactMembers rest

end

def margin (depth : Nat) : String :=
  String.ofList (List.replicate (2 * depth) ' ')

/-- Items between two marks, one to a line; without items the marks stand side by side. -/
def block (depth : Nat) (start ending : String) (items : List String) : String :=
  if items.isEmpty then start ++ ending
  else
    start ++ "\n" ++ String.intercalate ",\n" (items.map (margin (depth + 1) ++ ·)) ++
      "\n" ++ margin depth ++ ending

mutual

/-- The text over several lines, inside `depth` levels. -/
def prettyFrom (depth : Nat) : Tree → String
  | leaf text => text
  | array elements => block depth "[" "]" (prettyAll (depth + 1) elements)
  | object members => block depth "\x7b" "\x7d" (prettyMembers (depth + 1) members)

def prettyAll (depth : Nat) : List Tree → List String
  | [] => []
  | t :: rest => t.prettyFrom depth :: prettyAll depth rest

def prettyMembers (depth : Nat) : List (String × Tree) → List String
  | [] => []
  | (name, t) :: rest => (quote name ++ ": " ++ t.prettyFrom depth) :: prettyMembers depth rest

end

def pretty (t : Tree) : String :=
  t.prettyFrom 0

end Tree

end FlagBinding.Json
