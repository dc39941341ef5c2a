import FlagBinding.Element.Codec
import FlagBinding.Json.Read
import FlagBinding.Text.Trim

/-!
# Cells with a JSON object

Every argument is one JSON object and replaces the map as a whole; a blank argument empties it. All
members of the object have values of one type.

## Main definitions

* `JsonElement`: a type of member values; `JsonElement.ofValue?` and `JsonElement.toValue`.
* `JsonMap.parse`, `JsonMap.format`: the operations on a map.
-/

namespace FlagBinding

open Number

/-- A type of member values. -/
inductive JsonElement
  | bool
  | int32
  | int64
  | uint32
  | uint64
  | single
  | double
  | text
  | bytes
  | value
  deriving DecidableEq

namespace JsonElement

/-- The values of the type. -/
@[reducible] def Item : JsonElement → Type
  | .bool => Bool
  | .int32 => Int32
  | .int64 => Int64
  | .uint32 => UInt32
  | .uint64 => UInt64
  | .single => Floating .single
  | .double => Floating .double
  | .text => String
  | .bytes => List UInt8
  | .value => Json.Value

def integer? (least greatest : Int) : Json.Value → Option Int
  | .integer n => if least ≤ n ∧ n ≤ greatest then some n else none
  | _ => none

def number? (format : FloatFormat) : Json.Value → Option (Floating format)
  | .integer n => some (.ofRatio (n < 0) n.natAbs 1)
  | .float x => some x.convert
  | _ => none

def byte? (v : Json.Value) : Option UInt8 :=
  (integer? 0 255 v).map fun n => UInt8.ofNat n.toNat

/-- The value of a JSON value, if it is of the type. -/
def ofValue? : (e : JsonElement) → Json.Value → Option e.Item
  | .bool, .bool b => some b
  | .int32, v => (integer? (-2 ^ 31) (2 ^ 31 - 1) v).map Int32.ofInt
  | .int64, v => (integer? (-2 ^ 63) (2 ^ 63 - 1) v).map Int64.ofInt
  | .uint32, v => (integer? 0 (2 ^ 32 - 1) v).map fun n => UInt32.ofNat n.toNat
  | .uint64, v => (integer? 0 (2 ^ 64 - 1) v).map fun n => UInt64.ofNat n.toNat
  | .single, v => number? .single v
  | .double, v => number? .double v
  | .text, .string s => some s
  | .bytes, .array vs => vs.mapM byte?
  | .value, v => some v
  | _, _ => none

/-- The text of a value. -/
def render : (e : JsonElement) → e.Item → String
  | .bool, b => if b then "true" else "false"
  | .int32, n => decimal n.toInt
  | .int64, n => decimal n.toInt
  | .uint32, n => decimalNat n.toNat
  | .uint64, n => decimalNat n.toNat
  | .single, x => Json.renderFloat Json.singleStyle x
  | .double, x => Json.renderFloat Json.doubleStyle x
  | .text, s => Json.quote s
  | .bytes, bs => Json.enclose "[" "]" (bs.map fun b => decimalNat b.toNat)
  | .value, v => v.render

end JsonElement

namespace JsonMap

def readMember? (e : JsonElement) (member : String × Json.Value) : Option (String × e.Item) :=
  (e.ofValue? member.2).map fun item => (member.1, item)

def parse (e : JsonElement) (input : String) : Except ValueError (Dict e.Item) :=
  if input.toList.all Text.isBlank then .ok .empty
  else match (Json.parseObject? input).bind fun members => members.mapM (readMember? e) with
    | some members => .ok (.ofList members)
    | none => .error (.notJson input)

def format (e : JsonElement) (entries : Dict e.Item) : String :=
  Json.enclose "\x7b" "\x7d"
    (entries.entries.map fun (name, item) => Json.member name (e.render item))

def kind : String := "json"

end JsonMap

end FlagBinding
