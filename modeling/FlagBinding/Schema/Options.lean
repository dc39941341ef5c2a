import FlagBinding.Number.FloatText
import FlagBinding.Schema.ScalarKind

/-!
# Flag options

What a schema says about the flag of a field: a part that all flags have, and a kind with the
settings of that kind.

## Main definitions

* `DefaultValue`: a declared default.
* `BytesEncoding`, `MapFormat`: settings with numbers of their own.
* `ElementKind`, `FlagKind`: the kinds of flags for list elements and for fields.
* `FlagCommon`, `FieldFlags`: the options of a field.
-/

namespace FlagBinding.Schema

open Number

/-- A default that is declared for a number or a truth value. -/
inductive DefaultValue
  | single (x : Floating .single)
  | double (x : Floating .double)
  | int32 (n : Int32)
  | int64 (n : Int64)
  | uint32 (n : UInt32)
  | uint64 (n : UInt64)
  | bool (b : Bool)
  deriving DecidableEq

namespace DefaultValue

/-- What a field has to hold for the default to fit. -/
def carrier : DefaultValue → Carrier
  | single _ => .single
  | double _ => .double
  | int32 _ => .int32
  | int64 _ => .int64
  | uint32 _ => .uint32
  | uint64 _ => .uint64
  | bool _ => .bool

/-- The name of the type of the default in a written schema. -/
def title : DefaultValue → String
  | single _ => "Float"
  | double _ => "Double"
  | int32 _ => "Int32"
  | int64 _ => "Int64"
  | uint32 _ => "UInt32"
  | uint64 _ => "UInt64"
  | bool _ => "Bool"

/-- The value by itself. -/
def bare : DefaultValue → String
  | single x => FloatStyle.literal.render x
  | double x => FloatStyle.literal.render x
  | int32 n => decimal n.toInt
  | int64 n => decimal n.toInt
  | uint32 n => decimalNat n.toNat
  | uint64 n => decimalNat n.toNat
  | bool b => if b then "true" else "false"

/-- The default with the name of its type, for a message. -/
def summary (d : DefaultValue) : String :=
  d.title ++ "(" ++ d.bare ++ ")"

end DefaultValue

/-- How bytes are written. -/
inductive BytesEncoding
  | unspecified
  | base64
  | hex
  | unknown (number : Int32)
  deriving DecidableEq

def BytesEncoding.ofNumber (n : Int32) : BytesEncoding :=
  if n = 0 then unspecified else if n = 1 then base64 else if n = 2 then hex else unknown n

/-- How a map is written. Without a format a map is written in JSON. -/
inductive MapFormat
  | unspecified
  | json
  | textToText
  | textToInteger
  | unknown (number : Int32)
  deriving DecidableEq

def MapFormat.ofNumber (n : Int32) : MapFormat :=
  if n = 0 then unspecified else if n = 1 then json else if n = 2 then textToText
  else if n = 3 then textToInteger else unknown n

/-- The part of the options that all flags have. -/
structure FlagCommon where
  name : Option String := none
  short : Option String := none
  usage : String := ""
  hidden : Bool := false
  deprecated : Bool := false
  deprecatedUsage : String := ""
  disabled : Bool := false
  deriving DecidableEq

/-- A kind of list element. -/
inductive ElementKind
  | scalar (kind : ScalarKind)
  | bytes (encoding : BytesEncoding)
  | enumeration
  | duration
  | timestamp (formats : List String)
  /-- A kind that is not known, or the empty text if none is given. -/
  | unknown (name : String)
  deriving DecidableEq

/-- A kind of flag. -/
inductive FlagKind
  | scalar (kind : ScalarKind) (default : Option DefaultValue)
  | bytes (encoding : BytesEncoding)
  | enumeration (default : Option Int32)
  | duration
  | timestamp (formats : List String)
  | map (format : MapFormat)
  | message (nested : Bool)
  | repeated (element : ElementKind)
  /-- A kind that is not known, or the empty text if none is given. -/
  | unknown (name : String)
  deriving DecidableEq

/-- The name of a kind, as a schema writes it. -/
def FlagKind.word : FlagKind → String
  | scalar kind _ => kind.word
  | bytes _ => "bytes"
  | enumeration _ => "enum"
  | duration => "duration"
  | timestamp _ => "timestamp"
  | map _ => "map"
  | message _ => "message"
  | repeated _ => "repeated"
  | unknown name => name

/-- The options of a field. -/
structure FieldFlags where
  common : FlagCommon
  kind : FlagKind
  deriving DecidableEq

namespace FieldFlags

/-- Whether the options register a flag of their own. -/
def registers (flags : FieldFlags) : Bool :=
  !flags.common.disabled && match flags.kind with
    | .message _ => false
    | _ => true

/-- Whether the options bind the fields of a message. -/
def nests (flags : FieldFlags) : Bool :=
  !flags.common.disabled && match flags.kind with
    | .message nested => nested
    | _ => false

end FieldFlags

end FlagBinding.Schema
