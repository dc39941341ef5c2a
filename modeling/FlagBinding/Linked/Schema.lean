import FlagBinding.Linked.Pool
import FlagBinding.Options.Flags

/-!
# The schema of a pool

Every file of a pool becomes a file of a schema. Its messages come in the order of their
declaration, nested ones right after the one around them; nested messages that stand for entries of
maps are left out, with all that is in them. Flag options are the records of two extensions, which
are known by their full names.

## Main definitions

* `fieldOf`, `messagesOf`, `fileOf`: the parts of the schema.
* `Pool.schema`: the schema of a pool.
-/

namespace FlagBinding.Linked

open Descriptor (Edition qualify)
open Options (Record)

def fieldExtension : String := "flags.field"

def messageExtension : String := "flags.message"

def extensionRecord? (p : Pool) (fullName : String) (options : Record) : Option Record := do
  let number ← p.extensionNumber? fullName
  (← options.at? number).record?

def FieldType.toSchema : FieldType → Schema.FieldType
  | scalar kind => .scalar kind
  | bytes => .bytes
  | enumeration type => .enumeration type
  | message fullName => .message (.ofFullName fullName)
  | group fullName => .message (.ofFullName fullName)

def entryMessage? (p : Pool) (f : Field Record) : Option (Message Record) :=
  if f.label = .repeated then
    (f.type.messageName?.bind p.message?).filter (·.isMapEntry)
  else none

def entryTypes? (entry : Message Record) : Option Schema.MapEntry := do
  return ⟨(← entry.field? 1).type.toSchema, (← entry.field? 2).type.toSchema⟩

/-- The group of a field, unless it is there only to tell a missing value. -/
def groupOf (f : Field Record) : Option String :=
  if f.proto3Optional then none else f.oneof

def isOptional (edition : Edition) (f : Field Record) : Bool :=
  f.hasPresence edition && f.label ≠ .required && f.type.messageName?.isNone &&
    f.label ≠ .repeated && (groupOf f).isNone

/-- The field in a schema. -/
def fieldOf (p : Pool) (edition : Edition) (f : Field Record) : Schema.Field where
  name := f.name
  number := .ofNat f.number
  type := f.type.toSchema
  repeated := f.label = .repeated && (entryMessage? p f).isNone
  optional := isOptional edition f
  map := (entryMessage? p f).bind entryTypes?
  oneof := groupOf f
  flags := (extensionRecord? p fieldExtension f.options).map Options.fieldFlags

mutual

/-- The messages of a schema that a message of a scope becomes; `path` has the names of the messages
around it, the outermost first. -/
def messagesOf (p : Pool) (edition : Edition) (scope : String) (path : List String) :
    Message Record → List Schema.Message
  | ⟨name, _, fields, nested, options⟩ =>
    { name := name
      fullName := qualify scope name
      path := path ++ [name]
      disabled := (extensionRecord? p messageExtension options).any Options.isDisabled
      fields := fields.map (fieldOf p edition) } ::
    nestedMessagesOf p edition (qualify scope name) (path ++ [name]) nested

/-- The messages of a schema that the messages inside another one become. -/
def nestedMessagesOf (p : Pool) (edition : Edition) (scope : String) (path : List String) :
    List (Message Record) → List Schema.Message
  | [] => []
  | m :: rest =>
    (if m.isMapEntry then [] else messagesOf p edition scope path m) ++
      nestedMessagesOf p edition scope path rest

end

def fileOf (p : Pool) (wanted : List String) (f : File Record) : Schema.File where
  name := f.name
  package := f.package
  generate := wanted.contains f.name
  messages := f.messages.flatMap (messagesOf p f.edition f.package [])

end FlagBinding.Linked

namespace FlagBinding

/-- The schema of a pool, in which code is wanted for some files. -/
def Pool.schema (p : Pool) (wanted : List String) : Schema :=
  ⟨p.files.map (Linked.fileOf p wanted)⟩

end FlagBinding
