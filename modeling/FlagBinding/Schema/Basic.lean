import FlagBinding.Schema.Options
import FlagBinding.Text.Case
import FlagBinding.Text.Trim

/-!
# Schemas

A schema is what a compiler of message definitions hands over: files with messages, and fields with
types and flag options.

## Main definitions

* `WellKnown`, `FieldType`, `Field`, `Message`, `File`: the parts of a schema.
* `Schema`, `Schema.findMessage?`: a schema, and the look-up of a message by its full name.
* `Field.flagName`: the name of the flag of a field.
-/

namespace FlagBinding.Schema

open Text

/-- A message type with a meaning of its own. -/
inductive WellKnown
  /-- A scalar that may be missing. -/
  | wrapper (kind : ScalarKind)
  /-- Bytes that may be missing. -/
  | bytesValue
  | duration
  | timestamp
  | empty
  /-- Any other message of the standard package. -/
  | other
  deriving DecidableEq

/-- A full name without the dots in front that mark it as absolute. -/
def relativeName (fullName : String) : String :=
  String.ofList (trimStart (· == '.') fullName.toList)

/-- The package of the well-known types, with the dot that follows it. -/
def standardPackage : String := "google.protobuf."

/-- The well-known type with a name in the standard package. -/
def WellKnown.ofShortName : String → WellKnown
  | "DoubleValue" => wrapper .double
  | "FloatValue" => wrapper .float
  | "Int64Value" => wrapper .int64
  | "UInt64Value" => wrapper .uint64
  | "Int32Value" => wrapper .int32
  | "UInt32Value" => wrapper .uint32
  | "BoolValue" => wrapper .bool
  | "StringValue" => wrapper .string
  | "BytesValue" => bytesValue
  | "Duration" => duration
  | "Timestamp" => timestamp
  | "Empty" => empty
  | _ => other

def WellKnown.ofFullName? (fullName : String) : Option WellKnown :=
  (stripStart? standardPackage.toList (relativeName fullName).toList).map fun name =>
    ofShortName (String.ofList name)

/-- The type of a field that holds messages. -/
structure MessageType where
  fullName : String
  wellKnown : Option WellKnown
  deriving DecidableEq

def MessageType.ofFullName (fullName : String) : MessageType :=
  ⟨fullName, WellKnown.ofFullName? fullName⟩

/-- A value of an enumeration type. -/
structure EnumValue where
  name : String
  number : Int32
  deriving DecidableEq

/-- An enumeration type. -/
structure EnumType where
  name : String
  fullName : String
  values : List EnumValue
  deriving DecidableEq

def EnumType.contains (e : EnumType) (number : Int32) : Bool :=
  e.values.any (·.number = number)

/-- The type of a field, or of its elements. -/
inductive FieldType
  | scalar (kind : ScalarKind)
  | bytes
  | enumeration (type : EnumType)
  | message (type : MessageType)
  deriving DecidableEq

namespace FieldType

def describe : FieldType → String
  | scalar kind => kind.word
  | bytes => "bytes"
  | enumeration e => e.fullName
  | message m => m.fullName

def wellKnown? : FieldType → Option WellKnown
  | message m => m.wellKnown
  | _ => none

end FieldType

/-- The types of the keys and values of a map. -/
structure MapEntry where
  key : FieldType
  value : FieldType
  deriving DecidableEq

/-- A field of a message. -/
structure Field where
  name : String
  number : Int32
  type : FieldType
  repeated : Bool := false
  /-- Whether a missing value can be told from a zero. -/
  optional : Bool := false
  map : Option MapEntry := none
  /-- The group of fields of which at most one is set. -/
  oneof : Option String := none
  flags : Option FieldFlags := none
  deriving DecidableEq

/-- The name of a flag whose options give none: the field's name in lower case, with dashes. -/
def defaultFlagName (fieldName : String) : String :=
  (toLower fieldName).map fun c => if c = '_' then '-' else c

namespace Field

/-- Whether the field has one value. -/
def isSingular (f : Field) : Bool :=
  !f.repeated && f.map.isNone

/-- Whether the field has options that are not disabled. -/
def isEnabled (f : Field) : Bool :=
  f.flags.any fun flags => !flags.common.disabled

def flagName (f : Field) (flags : FieldFlags) : String :=
  flags.common.name.getD (defaultFlagName f.name)

/-- The name of the message that a field nests. -/
def nestedTarget? (f : Field) : Option String :=
  match f.flags, f.type with
  | some flags, .message target => if flags.nests then some target.fullName else none
  | _, _ => none

end Field

/-- A message. -/
structure Message where
  name : String
  fullName : String
  /-- The names from the outermost enclosing message down to this one. -/
  path : List String
  disabled : Bool
  fields : List Field
  deriving DecidableEq

/-- A file of message definitions. -/
structure File where
  name : String
  package : String
  /-- Whether code is wanted for the file; other files are there to be referred to. -/
  generate : Bool
  /-- The messages in the order of their declaration; nested ones follow the one around them. -/
  messages : List Message
  deriving DecidableEq

/-- Whether a field of a message of the file has flag options. -/
def File.hasFlags (file : File) : Bool :=
  file.messages.any fun m => !m.disabled && m.fields.any (·.flags.isSome)

end FlagBinding.Schema

namespace FlagBinding

open Schema in
/-- All files of a compilation. -/
structure Schema where
  files : List File
  deriving DecidableEq

namespace Schema

def messages (s : Schema) : List Message :=
  s.files.flatMap (·.messages)

/-- The first message with a full name. -/
def findMessage? (s : Schema) (fullName : String) : Option Message :=
  s.messages.find? (·.fullName = relativeName fullName)

/-- The files for which code is wanted. -/
def wanted (s : Schema) : List File :=
  s.files.filter (·.generate)

end Schema

end FlagBinding
