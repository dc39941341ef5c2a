import FlagBinding.Schema.ScalarKind
import FlagBinding.Wire.Varint

/-!
# Descriptors

A descriptor states what a file of message definitions declares. It refers to types, to groups of
fields and to other files by name or by position, and it keeps its options as bytes: what they mean
depends on extensions that any file may declare.

## Main definitions

* `Field`, `Extension`, `Message`, `Enumeration`, `Service`: the declarations.
* `File`: a file with its declarations.
-/

namespace FlagBinding.Descriptor

open Schema (ScalarKind)
open Wire (Bytes)

/-- The editions of the language, which differ in when a missing value can be told from a zero. -/
inductive Edition
  | proto2
  | proto3
  deriving DecidableEq

/-- The edition that a file states; without a statement it is the older one. -/
def Edition.ofWord? : Option String → Option Edition
  | none => some proto2
  | some "proto2" => some proto2
  | some "proto3" => some proto3
  | some _ => none

/-- How many values a field takes. -/
inductive Label
  | optional
  | required
  | repeated
  deriving DecidableEq

/-- The label with a number; a number without a label means an optional field. -/
def Label.ofNumber (n : Int32) : Label :=
  if n = 2 then required else if n = 3 then repeated else optional

/-- What a field states of its type, apart from a name. -/
inductive TypeCode
  | scalar (kind : ScalarKind)
  | bytes
  /-- A type that goes by its name. -/
  | named
  /-- A message that travels as a group. -/
  | group
  deriving DecidableEq

/-- The type code with a number; a number without a code means a double. -/
def TypeCode.ofNumber (n : Int32) : TypeCode :=
  match n.toInt with
  | 2 => scalar .float
  | 3 => scalar .int64
  | 4 => scalar .uint64
  | 5 => scalar .int32
  | 6 => scalar .fixed64
  | 7 => scalar .fixed32
  | 8 => scalar .bool
  | 9 => scalar .string
  | 10 => group
  | 11 => named
  | 12 => bytes
  | 13 => scalar .uint32
  | 14 => named
  | 15 => scalar .sfixed32
  | 16 => scalar .sfixed64
  | 17 => scalar .sint32
  | 18 => scalar .sint64
  | _ => scalar .double

/-- A field of a message. -/
structure Field where
  name : String
  number : Int32
  label : Label
  code : TypeCode
  /-- The name of the type, or the empty text. -/
  typeName : String
  /-- The position of the group of which at most one field is set. -/
  oneofIndex : Option Int32
  /-- Whether the field is the only one of a group that is there to tell a missing value. -/
  proto3Optional : Bool
  options : Bytes

/-- A field that is added to a message from elsewhere. -/
structure Extension where
  field : Field
  /-- The name of the message that is extended. -/
  extendee : String

/-- A group of fields of which at most one is set. -/
structure Oneof where
  name : String
  options : Bytes

/-- A value of an enumeration. -/
structure EnumerationValue where
  name : String
  number : Int32
  options : Bytes

/-- An enumeration. -/
structure Enumeration where
  name : String
  values : List EnumerationValue
  options : Bytes

/-- A message. -/
structure Message where
  name : String
  fields : List Field
  nested : List Message
  enumerations : List Enumeration
  extensions : List Extension
  oneofs : List Oneof
  /-- The options of the ranges of numbers that are left to extensions. -/
  rangeOptions : List Bytes
  options : Bytes

/-- A method of a service. -/
structure Method where
  name : String
  input : String
  output : String
  options : Bytes

/-- A service. -/
structure Service where
  name : String
  methods : List Method
  options : Bytes

/-- A file. -/
structure File where
  name : String
  package : String
  /-- The names of the files to which declarations of this one may refer. -/
  dependencies : List String
  /-- The positions of those dependencies to which the importers of this file may refer as well. -/
  publicDependencies : List Int32
  messages : List Message
  enumerations : List Enumeration
  services : List Service
  extensions : List Extension
  /-- What the file states of its edition. -/
  edition : Option String
  options : Bytes
  /-- Where the declarations stand in the text of the file. -/
  sourceInfo : Bytes

def qualify (scope name : String) : String :=
  if scope.isEmpty then name else scope ++ "." ++ name

end FlagBinding.Descriptor
