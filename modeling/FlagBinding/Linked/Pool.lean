import FlagBinding.Descriptor.Read
import FlagBinding.Linked.Resolve

/-!
# Pools

A pool is a list of linked files whose options have been read. Options are read twice: as the
standard options alone, and as the message type that the files themselves declare for them, with its
extensions. Every one of them has to be well-formed, whether its target matters or not.

## Main definitions

* `catalogue`: the message types that linked files declare.
* `Pool`: linked files with extensions; no two messages have one full name.
* `Pool.ofDescriptors?`, `Pool.read?`: the pool of some descriptors, or of their bytes.
-/

namespace FlagBinding.Linked

open Options (Catalogue FieldShape Kind Record Target standard)
open Wire (Bytes)

variable {ω : Type}

/-! ## Shapes -/

def FieldType.kind : FieldType → Kind
  | scalar kind => .scalar kind
  | bytes => .bytes
  | enumeration _ => .enumeration
  | message fullName => .record fullName
  | group fullName => .group fullName

def Field.shape (name : String) (edition : Descriptor.Edition) (f : Field ω) : FieldShape :=
  ⟨⟨name, f.number, f.oneof⟩, f.type.kind, f.label = .repeated, f.hasPresence edition⟩

def File.types (f : File ω) : List (String × List FieldShape) :=
  f.listing.map fun (fullName, m) => (fullName, m.fields.map fun g => g.shape g.name f.edition)

def Extension.shape (e : Extension) : FieldShape :=
  e.field.shape e.fullName e.edition

/-- The message types that files declare, with their extensions. Those of the standard options need
not be declared. -/
def catalogue (types : List (String × List FieldShape)) (extensions : List Extension) : Catalogue :=
  fun type =>
    match types.lookup type with
    | some fields => fields ++ (extensions.filter (·.extendee = type)).map Extension.shape
    | none => standard type

/-! ## Reading options -/

def readOptions? (c : Catalogue) (target : Target) (bytes : Bytes) : Option Record := do
  guard (Options.isStandard target bytes)
  c.decode? target.optionsType bytes

def Field.readOptions? (c : Catalogue) (f : Field Bytes) : Option (Field Record) := do
  return { f with options := ← Linked.readOptions? c .field f.options }

mutual

def Message.readOptions? (c : Catalogue) : Message Bytes → Option (Message Record)
  | ⟨name, isMapEntry, fields, nested, options⟩ => do
    return {
      name, isMapEntry
      fields := ← fields.mapM (Field.readOptions? c)
      nested := ← Message.readOptionsOfAll? c nested
      options := ← Linked.readOptions? c .message options }

def Message.readOptionsOfAll? (c : Catalogue) :
    List (Message Bytes) → Option (List (Message Record))
  | [] => some []
  | m :: rest => do
    return (← m.readOptions? c) :: (← Message.readOptionsOfAll? c rest)

end

def File.readOptions? (c : Catalogue) (f : File Bytes) : Option (File Record) := do
  return { f with messages := ← Message.readOptionsOfAll? c f.messages }

/-! ## Other options -/

/-- Options with what they belong to. -/
abbrev TargetOptions := List (Target × Bytes)

def enumerationOptions (e : Descriptor.Enumeration) : TargetOptions :=
  (.enumeration, e.options) :: e.values.map fun v => (.enumerationValue, v.options)

def extensionOptions (es : List Descriptor.Extension) : TargetOptions :=
  es.map fun e => (.field, e.field.options)

mutual

/-- The options in a message other than those of messages and their fields. -/
def otherOptions : Descriptor.Message → TargetOptions
  | ⟨_, _, nested, enumerations, extensions, oneofs, ranges, _⟩ =>
    otherOptionsOfAll nested ++ enumerations.flatMap enumerationOptions ++
      extensionOptions extensions ++ (oneofs.map fun o => (.oneof, o.options)) ++
      ranges.map fun r => (.extensionRange, r)

/-- The options in messages other than those of messages and their fields. -/
def otherOptionsOfAll : List Descriptor.Message → TargetOptions
  | [] => []
  | m :: rest => otherOptions m ++ otherOptionsOfAll rest

end

def serviceOptions (s : Descriptor.Service) : TargetOptions :=
  (.service, s.options) :: s.methods.map fun m => (.method, m.options)

/-- The options in a file other than those of messages and their fields. -/
def fileOptions (f : Descriptor.File) : TargetOptions :=
  (.file, f.options) :: otherOptionsOfAll f.messages ++
    f.enumerations.flatMap enumerationOptions ++ f.services.flatMap serviceOptions ++
    extensionOptions f.extensions

/-- Whether what a file says beside its messages is well-formed. -/
def isWellFormed (c : Catalogue) (f : Descriptor.File) : Bool :=
  ((fileOptions f).all fun (target, bytes) => (readOptions? c target bytes).isSome) &&
    (standard.decode? Options.sourceInfoType f.sourceInfo).isSome

end FlagBinding.Linked

namespace FlagBinding

open Linked Options

/-- Linked files whose options have been read, and the extensions that they declare. -/
structure Pool where
  files : List (File Record)
  extensions : List Extension
  distinct : (files.flatMap File.names).Nodup

namespace Pool

/-- The pool of some descriptors, if they fit together. -/
def ofDescriptors? (descriptors : List Descriptor.File) : Option Pool := do
  let (files, extensions) ← resolveFiles? descriptors
  let c := catalogue (files.flatMap (·.types)) extensions
  guard (descriptors.all (isWellFormed c))
  let files ← files.mapM (File.readOptions? c)
  if h : (files.flatMap File.names).Nodup then some ⟨files, extensions, h⟩ else none

def read? (files : List Wire.Bytes) : Option Pool :=
  (files.mapM Descriptor.File.read?).bind ofDescriptors?

def messages (p : Pool) : List (String × Message Record) :=
  p.files.flatMap File.listing

def message? (p : Pool) (fullName : String) : Option (Message Record) :=
  p.messages.lookup fullName

def extensionNumber? (p : Pool) (fullName : String) : Option Nat :=
  (p.extensions.find? (·.fullName = fullName)).map (·.field.number)

end Pool

end FlagBinding
