import FlagBinding.Element.Error

/-!
# Codecs

A codec turns one token of a command line into one element of a field and back.
-/

namespace FlagBinding

/-- How the elements of a type are written on a command line. -/
structure Codec (α : Type) where
  /-- The name of the kind of element. -/
  kind : String
  decode : String → Except ValueError α
  encode : α → String
  /-- What is shown for an element that is not set. -/
  zero : String := ""
  /-- The value of a flag that is given without one. -/
  implicit : Option String := none

/-- The codec reads an element back from its own text. -/
def Codec.Exact {α : Type} (c : Codec α) (x : α) : Prop :=
  c.decode (c.encode x) = .ok x

end FlagBinding
