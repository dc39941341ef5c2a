import FlagBinding.Dict
import FlagBinding.Element.Codec
import FlagBinding.Text.Case
import FlagBinding.Text.Csv

/-!
# Cells with a map of elements

Every argument is a list of entries `key=value`, perhaps in the square brackets in which maps are
shown. The first argument replaces what the map held before, and later ones are merged into it. An
argument that is refused changes nothing.

## Main definitions

* `StringMap`: the map, and whether an argument has replaced its first contents.
* `StringMap.parse`, `StringMap.format`: the operations on it.
-/

namespace FlagBinding

open Text

/-- A map-valued cell. -/
structure StringMap (α : Type) where
  entries : Dict α
  /-- Whether an argument has been parsed into the map. -/
  touched : Bool := false

namespace StringMap

variable {α : Type}

/-- The key and the value of an entry, which are separated by its first equals sign. -/
def readEntry (c : Codec α) (entry : String) : Except ValueError (String × α) :=
  match cutFirst? '=' entry with
  | none => .error (.noEquals entry)
  | some (key, value) =>
    match c.decode value with
    | .ok item => .ok (key, item)
    | .error cause => .error (.entryValue entry cause)

/-- The entries of an argument, in which quotes left over from a shell do not count. -/
def readEntries (c : Codec α) (input : String) : Except ValueError (List (String × α)) :=
  (Csv.readUnquoted (Csv.stripBrackets input)).mapM (readEntry c)

def parse (c : Codec α) (cell : StringMap α) (input : String) :
    Except ValueError (StringMap α) := do
  let entries ← readEntries c input
  let base := if cell.touched then cell.entries else .empty
  return ⟨base.insertAll entries, true⟩

def writeEntry (c : Codec α) (entry : String × α) : String :=
  entry.1 ++ "=" ++ c.encode entry.2

/-- The entries as texts, in increasing order. -/
def encoded (c : Codec α) (cell : StringMap α) : List String :=
  (cell.entries.entries.map (writeEntry c)).mergeSort (· ≤ ·)

def format (c : Codec α) (cell : StringMap α) : String :=
  "[" ++ Csv.write (cell.encoded c) ++ "]"

def kind (c : Codec α) : String :=
  match c.kind.toList with
  | [] => "stringTo"
  | first :: rest => "stringTo" ++ String.ofList (upperChar first ++ rest)

end StringMap

end FlagBinding
