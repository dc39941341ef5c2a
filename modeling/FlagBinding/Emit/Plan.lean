import FlagBinding.Schema.Basic

/-!
# Binding plans

What is done to bind a message to flags: the flags that are registered and the messages that are
bound in turn, in the order of the fields, and the defaults that are assigned.

## Main definitions

* `CodecTerm`, `CellTerm`: the codec and the cell of a flag.
* `Registration`, `BindStep`, `DefaultStep`: the steps.
* `Plan`, `Plan.ofMessage`: all that is done for a message.
-/

namespace FlagBinding.Emit

open Schema

/-- The codec of a flag. -/
inductive CodecTerm
  | scalar (carrier : Carrier)
  | base64
  | hex
  | enumeration (type : EnumType)
  | duration
  | timestamp (formats : List String)
  deriving DecidableEq

def CodecTerm.ofEncoding : BytesEncoding → CodecTerm
  | .hex => .hex
  | _ => .base64

/-- The cell of a flag. -/
inductive CellTerm
  | plain (codec : CodecTerm)
  | optional (codec : CodecTerm)
  | repeated (codec : CodecTerm)
  | stringMap (codec : CodecTerm)
  | jsonMap
  deriving DecidableEq

namespace CellTerm

/-- Whether a field may hold nothing. -/
def mayBeMissing (f : Field) : Bool :=
  f.optional || f.type.wellKnown?.isSome

def single (f : Field) (codec : CodecTerm) : CellTerm :=
  if mayBeMissing f then optional codec else plain codec

def integersOf (f : Field) : CodecTerm :=
  match f.map with
  | some ⟨_, .scalar kind⟩ => .scalar kind.carrier
  | _ => .scalar .int64

def ofMap (f : Field) : MapFormat → CellTerm
  | .textToText => stringMap (.scalar .text)
  | .textToInteger => stringMap (integersOf f)
  | _ => jsonMap

/-- The codec of an enumeration, if the type is one. -/
def enumerationOf? : FieldType → Option CodecTerm
  | .enumeration type => some (.enumeration type)
  | _ => none

def ofElement? (f : Field) : ElementKind → Option CellTerm
  | .scalar kind => some (repeated (.scalar kind.carrier))
  | .bytes encoding => some (repeated (.ofEncoding encoding))
  | .enumeration => (enumerationOf? f.type).map repeated
  | .duration => some (repeated .duration)
  | .timestamp formats => some (repeated (.timestamp formats))
  | .unknown _ => none

/-- The cell of the flag of a field, if there is a flag. -/
def ofKind? (f : Field) : FlagKind → Option CellTerm
  | .scalar kind _ => some (single f (.scalar kind.carrier))
  | .bytes encoding => some (single f (.ofEncoding encoding))
  | .enumeration _ => (enumerationOf? f.type).map (single f)
  | .duration => some (single f .duration)
  | .timestamp formats => some (single f (.timestamp formats))
  | .map format => some (ofMap f format)
  | .repeated element => ofElement? f element
  | .message _ => none
  | .unknown _ => none

end CellTerm

/-- A flag that is registered. -/
structure Registration where
  /-- The name of the field whose value the flag changes. -/
  field : String
  cell : CellTerm
  /-- The name of the flag below the names of the messages around it. -/
  flag : String
  short : Option Char
  usage : String
  hidden : Bool
  /-- What to use in place of the flag, if it is deprecated. -/
  deprecation : Option String
  deriving DecidableEq

/-- The registration of the flag of a field. -/
def Registration.of? (f : Field) (flags : FieldFlags) : Option Registration :=
  (CellTerm.ofKind? f flags.kind).map fun cell =>
    { field := f.name
      cell
      flag := f.flagName flags
      short := flags.common.short.bind fun s => s.toList.head?
      usage := flags.common.usage
      hidden := flags.common.hidden
      deprecation := if flags.common.deprecated then some flags.common.deprecatedUsage else none }

/-- A step of a binding. -/
inductive BindStep
  | register (r : Registration)
  /-- The message in a field, of the type `target`, is bound in turn below a segment of names. -/
  | nest (field segment target : String)
  deriving DecidableEq

/-- The step for a field with options. -/
def BindStep.of? (f : Field) (flags : FieldFlags) : Option BindStep :=
  if flags.common.disabled then none
  else match flags.kind with
    | .message true => some (.nest f.name (f.flagName flags) f.type.describe)
    | .message false => none
    | _ => (Registration.of? f flags).map .register

/-- Why a field with options has no step. -/
inductive Omission
  | disabled (field : String)
  | notNested (field : String)
  deriving DecidableEq

/-- The reason for which a field with options is left out. -/
def Omission.of? (f : Field) (flags : FieldFlags) : Option Omission :=
  if flags.common.disabled then some (.disabled f.name)
  else match flags.kind with
    | .message false => some (.notNested f.name)
    | _ => none

/-- A step of the assignment of defaults. -/
inductive DefaultStep
  /-- A default is assigned to a field that may or may not be able to hold nothing. -/
  | assign (field : String) (mayBeMissing : Bool) (value : DefaultValue)
  /-- Defaults are assigned to the message in a field, of the type `target`. -/
  | nest (field target : String)
  deriving DecidableEq

/-- Whether a scalar field may hold nothing. -/
def scalarMayBeMissing (f : Field) : Bool :=
  f.optional || match f.type.wellKnown? with
    | some (.wrapper _) => true
    | _ => false

/-- The default of a field with options. -/
def DefaultStep.of? (f : Field) (flags : FieldFlags) : Option DefaultStep :=
  if flags.common.disabled then none
  else match flags.kind with
    | .scalar kind (some value) =>
      if kind.carrier = value.carrier then some (.assign f.name (scalarMayBeMissing f) value)
      else none
    | .message true => some (.nest f.name f.type.describe)
    | _ => none

/-- What is done to bind a message. -/
structure Plan where
  fullName : String
  path : List String
  steps : List BindStep
  omissions : List Omission
  defaults : List DefaultStep
  deriving DecidableEq

/-- What a function gives for the fields of a message that have options. -/
def collect {α : Type} (m : Message) (f : Field → FieldFlags → Option α) : List α :=
  m.fields.filterMap fun x => x.flags.bind (f x)

/-- The plan of a message. -/
def Plan.ofMessage (m : Message) : Plan where
  fullName := m.fullName
  path := m.path
  steps := collect m BindStep.of?
  omissions := collect m Omission.of?
  defaults := collect m DefaultStep.of?

end FlagBinding.Emit
