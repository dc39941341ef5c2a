import FlagBinding.Descriptor.Basic
import FlagBinding.Schema.Basic

/-!
# Linked files

A linked file is a descriptor in which every reference has been followed: types are given by their
full names, groups of fields by their names. Enumerations come with their values; messages are known
by their names, since they may refer to each other. `ω` is the form of options: bytes at first,
records when they have been read.

## Main definitions

* `FieldType`, `Field`, `Message`, `File`, `Extension`: linked declarations.
* `Field.hasPresence`: whether a missing value can be told from a zero.
* `File.names`: the full names of all messages of a file.
-/

namespace FlagBinding.Linked

open Descriptor (Edition Label qualify)
open Schema (ScalarKind EnumType)

/-- The type of a field, or of its elements. -/
inductive FieldType
  | scalar (kind : ScalarKind)
  | bytes
  | enumeration (type : EnumType)
  | message (fullName : String)
  /-- A message that travels as a group. -/
  | group (fullName : String)
  deriving DecidableEq

def FieldType.messageName? : FieldType → Option String
  | message fullName => some fullName
  | group fullName => some fullName
  | _ => none

/-- A field of a message. -/
structure Field (ω : Type) where
  name : String
  number : Nat
  label : Label
  type : FieldType
  /-- The group of fields of which at most one is set. -/
  oneof : Option String
  /-- Whether the group is there only to tell a missing value from a zero. -/
  proto3Optional : Bool
  options : ω

/-- A message. -/
structure Message (ω : Type) where
  name : String
  /-- Whether the message stands for the entries of a map. -/
  isMapEntry : Bool
  fields : List (Field ω)
  nested : List (Message ω)
  options : ω

/-- A file. -/
structure File (ω : Type) where
  name : String
  package : String
  edition : Edition
  messages : List (Message ω)

/-- A field that is added to a message from elsewhere. -/
structure Extension where
  fullName : String
  /-- The full name of the message that is extended. -/
  extendee : String
  edition : Edition
  field : Field Unit

variable {ω : Type}

/-- Whether a missing value can be told from a zero. -/
def Field.hasPresence (edition : Edition) (f : Field ω) : Bool :=
  f.proto3Optional || f.oneof.isSome ||
    (f.label ≠ .repeated && (f.type.messageName?.isSome || edition = .proto2))

def Message.field? (m : Message ω) (number : Nat) : Option (Field ω) :=
  m.fields.find? (·.number = number)

mutual

/-- The messages in and under a message of a scope, with their full names. -/
def Message.listing (scope : String) : Message ω → List (String × Message ω)
  | ⟨name, isMapEntry, fields, nested, options⟩ =>
    (qualify scope name, ⟨name, isMapEntry, fields, nested, options⟩) ::
      Message.listingOfAll (qualify scope name) nested

/-- The messages in and under the messages of a scope, with their full names. -/
def Message.listingOfAll (scope : String) : List (Message ω) → List (String × Message ω)
  | [] => []
  | m :: rest => m.listing scope ++ Message.listingOfAll scope rest

end

def File.listing (f : File ω) : List (String × Message ω) :=
  Message.listingOfAll f.package f.messages

def File.names (f : File ω) : List String :=
  f.listing.map (·.1)

end FlagBinding.Linked
