import FlagBinding.Cell.Single
import FlagBinding.Cell.Repeated
import FlagBinding.Cell.StringMap
import FlagBinding.Cell.JsonMap
import FlagBinding.Element.Format

/-!
# Cells

A cell holds the value of a field and knows how arguments change it. An argument that is refused
leaves its cell as it was: the operations give either an error or another cell.

## Main definitions

* `Cell`: the five kinds of cells.
* `Cell.parse`, `Cell.format`, `Cell.kind`, `Cell.implicit`: what a flag needs of its cell.
* `Cell.append`, `Cell.replace`, `Cell.encoded`: what lists offer beyond that.
-/

namespace FlagBinding

/-- A field's value together with the way arguments are read into it. -/
inductive Cell
  | plain (format : ElementFormat) (item : format.Item)
  | optional (format : ElementFormat) (item : Option format.Item)
  | repeated (format : ElementFormat) (list : Repeated format.Item)
  | stringMap (format : ElementFormat) (map : StringMap format.Item)
  | jsonMap (element : JsonElement) (entries : Dict element.Item)

namespace Cell

def parse : Cell → String → Except ValueError Cell
  | .plain f _, input => .plain f <$> Plain.parse f.codec input
  | .optional f _, input => .optional f <$> Optional.parse f.codec input
  | .repeated f list, input => .repeated f <$> list.parse f.codec input
  | .stringMap f map, input => .stringMap f <$> map.parse f.codec input
  | .jsonMap e _, input => .jsonMap e <$> JsonMap.parse e input

def format : Cell → String
  | .plain f item => Plain.format f.codec item
  | .optional f item => Optional.format f.codec item
  | .repeated f list => list.format f.codec
  | .stringMap f map => map.format f.codec
  | .jsonMap e entries => JsonMap.format e entries

def kind : Cell → String
  | .plain f _ => f.codec.kind
  | .optional f _ => f.codec.kind
  | .repeated f _ => Repeated.kind f.codec
  | .stringMap f _ => StringMap.kind f.codec
  | .jsonMap _ _ => JsonMap.kind

def implicit : Cell → Option String
  | .plain f _ => f.codec.implicit
  | .optional f _ => f.codec.implicit
  | _ => none

def append : Cell → String → Option (Except ValueError Cell)
  | .repeated f list, input => some (.repeated f <$> list.append f.codec input)
  | _, _ => none

def replace : Cell → List String → Option (Except ValueError Cell)
  | .repeated f list, inputs => some (.repeated f <$> list.replace f.codec inputs)
  | _, _ => none

def encoded : Cell → Option (List String)
  | .repeated f list => some (list.encoded f.codec)
  | _ => none

end Cell

end FlagBinding
