import FlagBinding.Element.Scalar
import FlagBinding.Element.Bytes
import FlagBinding.Element.Enumeration
import FlagBinding.Element.Moment

/-!
# The formats of elements

The closed family of codecs that a flag can have, each with the type of its elements.
-/

namespace FlagBinding

open Number

/-- A format of elements. -/
inductive ElementFormat
  | bool
  | int32
  | int64
  | uint32
  | uint64
  | single
  | double
  | text
  | base64
  | hex
  | duration
  | enumeration (values : Enumeration)
  | timestamp (formats : List String)

namespace ElementFormat

/-- The type of the elements of a format. -/
@[reducible] def Item : ElementFormat → Type
  | .bool => Bool
  | .int32 => Int32
  | .int64 => Int64
  | .uint32 => UInt32
  | .uint64 => UInt64
  | .single => Floating .single
  | .double => Floating .double
  | .text => String
  | .base64 => List UInt8
  | .hex => List UInt8
  | .duration => Time.Duration
  | .enumeration _ => Int32
  | .timestamp _ => Timestamp

/-- The codec of a format. -/
def codec : (f : ElementFormat) → Codec f.Item
  | .bool => Codec.bool
  | .int32 => Codec.int32
  | .int64 => Codec.int64
  | .uint32 => Codec.uint32
  | .uint64 => Codec.uint64
  | .single => Codec.single
  | .double => Codec.double
  | .text => Codec.text
  | .base64 => Codec.base64
  | .hex => Codec.hex
  | .duration => Codec.duration
  | .enumeration e => Codec.enumeration e
  | .timestamp formats => Codec.timestamp formats

/-- The element that a field has before it is set. -/
def blank : (f : ElementFormat) → f.Item
  | .bool => false
  | .int32 => 0
  | .int64 => 0
  | .uint32 => 0
  | .uint64 => 0
  | .single => Floating.zero false
  | .double => Floating.zero false
  | .text => ""
  | .base64 => []
  | .hex => []
  | .duration => ⟨0, 0⟩
  | .enumeration _ => 0
  | .timestamp _ => ⟨0, 0⟩

end ElementFormat

end FlagBinding
