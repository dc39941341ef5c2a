import FlagBinding.Json.Value
import FlagBinding.Schema.Basic

/-!
# Faults of flag options

## Main definitions

* `FieldFault`: why the options of a field are refused; `FieldFault.message` gives the wording.
-/

namespace FlagBinding.Check

open Schema

/-- A flag of another kind than the type of its field. -/
structure KindMismatch where
  kind : String
  repeated : Bool
  type : FieldType
  deriving DecidableEq

def KindMismatch.message (m : KindMismatch) : String :=
  "flag kind " ++ Json.quote m.kind ++ " does not match the declared type " ++
    (if m.repeated then "repeated " else "") ++ m.type.describe

/-- Why the options of a field are refused. -/
inductive FieldFault
  | nameTaken (name owner : String)
  | shortTaken (short owner : String)
  | inOneof (oneof : String)
  | mismatch (mismatch : KindMismatch)
  /-- A flag for a single value on a field with several. -/
  | plural (mismatch : KindMismatch)
  | unfitDefault (value : DefaultValue) (kind : ScalarKind)
  | undeclaredDefault (number : Int32) (enumeration : String)
  | noEncoding
  | unknownEncoding (number : Int32)
  | noFormats
  | emptyFormat
  | repeatedFormat (format : String)
  | jsonKeys (key : FieldType)
  | jsonMessages (value : FieldType)
  | notTextToText (entry : MapEntry)
  | notTextToInteger (entry : MapEntry)
  | unknownMapFormat (number : Int32)
  | notRepeated (type : FieldType)
  | noElementKind
  | unknownElementKind (name : String)
  | nestedPlural
  | nestedWellKnown (fullName : String)
  | nestedNoMessage (type : FieldType)
  | nestedMissing (fullName : String)
  | nestedDisabled (fullName : String)
  | noKind
  | unknownKind (name : String)
  | longShort (short : String)
  | noUsage
  | noDeprecation
  deriving DecidableEq

def describeEntry (entry : MapEntry) : String :=
  "map<" ++ entry.key.describe ++ ", " ++ entry.value.describe ++ ">"

/-- The wording of a fault. -/
def FieldFault.message : FieldFault → String
  | nameTaken name owner =>
    "flag name " ++ Json.quote name ++ " is already used by field " ++ Json.quote owner
  | shortTaken short owner =>
    "short alias " ++ Json.quote short ++ " is already used by field " ++ Json.quote owner
  | inOneof oneof => "fields of oneof " ++ Json.quote oneof ++ " cannot carry flag options"
  | mismatch m => m.message
  | plural m => m.message ++ "; use the repeated variant"
  | unfitDefault value kind =>
    "default " ++ value.summary ++ " does not fit a " ++ kind.word ++ " field"
  | undeclaredDefault number enumeration =>
    "default " ++ Number.decimal number.toInt ++ " is not a value of enum " ++ enumeration
  | noEncoding => "bytes flags need an encoding (BASE64 or HEX)"
  | unknownEncoding number => "unknown bytes encoding " ++ Number.decimal number.toInt
  | noFormats => "timestamp flags need at least one format"
  | emptyFormat => "timestamp formats must not be empty"
  | repeatedFormat format => "timestamp format " ++ Json.quote format ++ " is listed twice"
  | jsonKeys key => "JSON maps need string keys, found " ++ key.describe
  | jsonMessages value => "JSON maps cannot hold message values (" ++ value.describe ++ ")"
  | notTextToText entry =>
    "STRING_TO_STRING needs map<string, string>, found " ++ describeEntry entry
  | notTextToInteger entry =>
    "STRING_TO_INT needs a string key and an integer value, found " ++ describeEntry entry
  | unknownMapFormat number => "unknown map format " ++ Number.decimal number.toInt
  | notRepeated type =>
    "the repeated variant needs a repeated field, found " ++ type.describe
  | noElementKind => "repeated flag options do not set an element kind"
  | unknownElementKind name => "unknown repeated flag kind " ++ Json.quote name
  | nestedPlural => "nested bindings need a singular message field"
  | nestedWellKnown fullName => fullName ++ " is a well-known type and cannot be nested"
  | nestedNoMessage type => "nested bindings need a message field, found " ++ type.describe
  | nestedMissing fullName => "message " ++ fullName ++ " is not part of the request"
  | nestedDisabled fullName => "message " ++ fullName ++ " has flags disabled"
  | noKind => "flag options do not set a flag kind"
  | unknownKind name => "unknown flag kind " ++ Json.quote name
  | longShort short => "short alias " ++ Json.quote short ++ " must be a single character"
  | noUsage => "usage must be set"
  | noDeprecation => "deprecated flags need a deprecated_usage message"

end FlagBinding.Check
