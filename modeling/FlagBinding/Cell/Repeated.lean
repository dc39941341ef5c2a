import FlagBinding.Element.Codec
import FlagBinding.Text.Csv

/-!
# Cells with a list

Every argument is a list of elements, perhaps in the square brackets in which lists are shown. The
first argument replaces what the list held before, and later ones are appended. An argument that is
refused changes nothing.

## Main definitions

* `Repeated`: the list, and whether an argument has replaced its first contents.
* `Repeated.parse`, `Repeated.append`, `Repeated.replace`: the operations on it.
* `Repeated.format`: the list as text.
-/

namespace FlagBinding

open Text

/-- A list-valued cell. -/
structure Repeated (α : Type) where
  items : List α
  /-- Whether an argument has been parsed into the list. -/
  touched : Bool := false

namespace Repeated

variable {α : Type}

/-- The elements of a list of texts; the first text that is no element is reported. -/
def decodeAll (c : Codec α) (inputs : List String) : Except ValueError (List α) :=
  inputs.mapM c.decode

def elements (c : Codec α) (input : String) : Except ValueError (List α) :=
  decodeAll c (Csv.read (Csv.stripBrackets input))

def parse (c : Codec α) (cell : Repeated α) (input : String) : Except ValueError (Repeated α) := do
  let items ← elements c input
  return ⟨if cell.touched then cell.items ++ items else items, true⟩

/-- The cell with one element more, whether or not an argument has been parsed. -/
def append (c : Codec α) (cell : Repeated α) (input : String) : Except ValueError (Repeated α) := do
  let item ← c.decode input
  return { cell with items := cell.items ++ [item] }

def replace (c : Codec α) (cell : Repeated α) (inputs : List String) :
    Except ValueError (Repeated α) := do
  let items ← decodeAll c inputs
  return { cell with items }

def encoded (c : Codec α) (cell : Repeated α) : List String :=
  cell.items.map c.encode

def format (c : Codec α) (cell : Repeated α) : String :=
  "[" ++ Csv.write (cell.encoded c) ++ "]"

def kind (c : Codec α) : String :=
  c.kind ++ "Slice"

end Repeated

end FlagBinding
