import FlagBinding.Element.Codec

/-!
# Cells with one element

A plain cell always holds an element; an optional cell holds none until an argument sets it. Every
argument replaces what was there.
-/

namespace FlagBinding

variable {α : Type}

namespace Plain

def parse (c : Codec α) (input : String) : Except ValueError α :=
  c.decode input

def format (c : Codec α) (item : α) : String :=
  c.encode item

end Plain

namespace Optional

def parse (c : Codec α) (input : String) : Except ValueError (Option α) :=
  some <$> c.decode input

def format (c : Codec α) : Option α → String
  | some item => c.encode item
  | none => c.zero

end Optional

end FlagBinding
