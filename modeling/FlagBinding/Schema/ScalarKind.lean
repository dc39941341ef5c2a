/-!
# Kinds of scalar fields

The kinds differ in how a number travels on the wire; several of them hold the same numbers. A
carrier is what a field of some kind holds.

## Main definitions

* `ScalarKind`, `ScalarKind.word`: a kind and its keyword.
* `Carrier`, `ScalarKind.carrier`: what a field holds.
-/

namespace FlagBinding.Schema

/-- A kind of scalar field. -/
inductive ScalarKind
  | float
  | double
  | int32
  | int64
  | uint32
  | uint64
  | sint32
  | sint64
  | fixed32
  | fixed64
  | sfixed32
  | sfixed64
  | bool
  | string
  deriving DecidableEq, Repr

namespace ScalarKind

def all : List ScalarKind :=
  [float, double, int32, int64, uint32, uint64, sint32, sint64, fixed32, fixed64, sfixed32,
    sfixed64, bool, string]

/-- The keyword of a kind in a schema. -/
def word : ScalarKind → String
  | float => "float"
  | double => "double"
  | int32 => "int32"
  | int64 => "int64"
  | uint32 => "uint32"
  | uint64 => "uint64"
  | sint32 => "sint32"
  | sint64 => "sint64"
  | fixed32 => "fixed32"
  | fixed64 => "fixed64"
  | sfixed32 => "sfixed32"
  | sfixed64 => "sfixed64"
  | bool => "bool"
  | string => "string"

def ofWord? (s : String) : Option ScalarKind :=
  all.find? (·.word = s)

/-- The name of a kind in a written schema. -/
def title : ScalarKind → String
  | float => "Float"
  | double => "Double"
  | int32 => "Int32"
  | int64 => "Int64"
  | uint32 => "UInt32"
  | uint64 => "UInt64"
  | sint32 => "SInt32"
  | sint64 => "SInt64"
  | fixed32 => "Fixed32"
  | fixed64 => "Fixed64"
  | sfixed32 => "SFixed32"
  | sfixed64 => "SFixed64"
  | bool => "Bool"
  | string => "String"

/-- Whether a kind holds integers, of whatever width and encoding. -/
def isInteger : ScalarKind → Bool
  | float => false
  | double => false
  | bool => false
  | string => false
  | _ => true

end ScalarKind

/-- What a scalar field holds. -/
inductive Carrier
  | single
  | double
  | int32
  | int64
  | uint32
  | uint64
  | bool
  | text
  deriving DecidableEq, Repr

/-- What a field of a kind holds. -/
def ScalarKind.carrier : ScalarKind → Carrier
  | float => .single
  | double => .double
  | int32 => .int32
  | int64 => .int64
  | uint32 => .uint32
  | uint64 => .uint64
  | sint32 => .int32
  | sint64 => .int64
  | fixed32 => .uint32
  | fixed64 => .uint64
  | sfixed32 => .int32
  | sfixed64 => .int64
  | bool => .bool
  | string => .text

namespace Carrier

/-- The type of what is held, in emitted code. -/
def typeName : Carrier → String
  | single => "f32"
  | double => "f64"
  | int32 => "i32"
  | int64 => "i64"
  | uint32 => "u32"
  | uint64 => "u64"
  | bool => "bool"
  | text => "String"

/-- The codec for what is held, in emitted code. -/
def codecName : Carrier → String
  | single => "Float"
  | double => "Double"
  | int32 => "Int32"
  | int64 => "Int64"
  | uint32 => "UInt32"
  | uint64 => "UInt64"
  | bool => "Bool"
  | text => "Str"

end Carrier

end FlagBinding.Schema
