import FlagBinding.Check.Fault
import FlagBinding.Text.Trim

/-!
# Checks of a single field

Every kind of flag fits some types of fields. A flag also needs a usage text and, if it is
deprecated, a hint what to use in its place; its short alias is one character.

## Main definitions

* `checkKind`: the kind against the type of the field.
* `checkCommon`: the part of the options that all flags have.
* `checkField`: the options of a field as a whole.
-/

namespace FlagBinding.Check

open Schema

/-- A condition, and what is wrong if it fails. -/
def require (condition : Bool) (fault : FieldFault) : Except FieldFault Unit :=
  if condition then .ok () else .error fault

def wrappedKinds : List ScalarKind :=
  [.float, .double, .int32, .int64, .uint32, .uint64, .bool, .string]

def holdsScalar (type : FieldType) (kind : ScalarKind) : Bool :=
  type = .scalar kind || (wrappedKinds.contains kind && type.wellKnown? = some (.wrapper kind))

def holdsBytes (type : FieldType) : Bool :=
  type = .bytes || type.wellKnown? = some .bytesValue

/-- A flag of the kind named `kind` on the field. -/
def mismatchOf (f : Field) (kind : String) : KindMismatch :=
  ⟨kind, f.repeated, f.type⟩

/-- The first format that stands in the list a second time or is empty. -/
def checkFormatsFrom (seen : List String) : List String → Except FieldFault Unit
  | [] => .ok ()
  | format :: rest => do
    require (!format.isEmpty) .emptyFormat
    require (!seen.contains format) (.repeatedFormat format)
    checkFormatsFrom (format :: seen) rest

/-- Formats of timestamps: at least one, none of them empty, none twice. -/
def checkFormats (formats : List String) : Except FieldFault Unit := do
  require (!formats.isEmpty) .noFormats
  checkFormatsFrom [] formats

/-- An encoding has to be chosen. -/
def checkEncoding : BytesEncoding → Except FieldFault Unit
  | .base64 => .ok ()
  | .hex => .ok ()
  | .unspecified => .error .noEncoding
  | .unknown n => .error (.unknownEncoding n)

def isText (type : FieldType) : Bool :=
  type = .scalar .string

def isInteger : FieldType → Bool
  | .scalar kind => kind.isInteger
  | _ => false

def isMessage : FieldType → Bool
  | .message _ => true
  | _ => false

/-- A format of maps against the types of a map. -/
def checkEntry (entry : MapEntry) : MapFormat → Except FieldFault Unit
  | .unspecified => jsonEntry
  | .json => jsonEntry
  | .textToText => require (isText entry.key && isText entry.value) (.notTextToText entry)
  | .textToInteger => require (isText entry.key && isInteger entry.value) (.notTextToInteger entry)
  | .unknown n => .error (.unknownMapFormat n)
where
  /-- What fits into a JSON object. -/
  jsonEntry : Except FieldFault Unit := do
    require (isText entry.key) (.jsonKeys entry.key)
    require (!isMessage entry.value) (.jsonMessages entry.value)

def checkMap (f : Field) (format : MapFormat) : Except FieldFault Unit :=
  match f.map with
  | some entry => checkEntry entry format
  | none => .error (.mismatch (mismatchOf f "map"))

/-- A kind of element against the type of the elements of a list. -/
def checkElement (f : Field) (element : ElementKind) : Except FieldFault Unit :=
  let fits (condition : Bool) := require condition (.mismatch (mismatchOf f "repeated"))
  match element with
  | .scalar kind => fits (holdsScalar f.type kind)
  | .bytes encoding => do
    checkEncoding encoding
    fits (holdsBytes f.type)
  | .enumeration => fits (match f.type with | .enumeration _ => true | _ => false)
  | .duration => fits (f.type.wellKnown? = some .duration)
  | .timestamp formats => do
    checkFormats formats
    fits (f.type.wellKnown? = some .timestamp)
  | .unknown name => .error (if name.isEmpty then .noElementKind else .unknownElementKind name)

def checkRepeated (f : Field) (element : ElementKind) : Except FieldFault Unit := do
  require (f.repeated && f.map.isNone) (.notRepeated f.type)
  checkElement f element

/-- A message whose fields are bound in turn. -/
def checkNested (s : Schema) (f : Field) : Except FieldFault Unit := do
  require f.isSingular .nestedPlural
  match f.type with
  | .message target =>
    require target.wellKnown.isNone (.nestedWellKnown target.fullName)
    match s.findMessage? target.fullName with
    | none => .error (.nestedMissing target.fullName)
    | some m => require (!m.disabled) (.nestedDisabled target.fullName)
  | other => .error (.nestedNoMessage other)

/-- A default of an enumeration, which has to be one of its numbers. -/
def checkNumber (e : EnumType) : Option Int32 → Except FieldFault Unit
  | some n => require (e.contains n) (.undeclaredDefault n e.fullName)
  | none => .ok ()

/-- A default of a scalar, which has to be of its type. -/
def checkDefault (kind : ScalarKind) : Option DefaultValue → Except FieldFault Unit
  | some value => require (kind.carrier = value.carrier) (.unfitDefault value kind)
  | none => .ok ()

/-- A flag for a single value named `word` whose field has to satisfy `fits`. -/
def checkSingle (f : Field) (word : String) (fits : Bool) : Except FieldFault Unit := do
  require f.isSingular (.plural (mismatchOf f word))
  require fits (.mismatch (mismatchOf f word))

/-- The kind of a flag against the type of its field. -/
def checkKind (s : Schema) (f : Field) : FlagKind → Except FieldFault Unit
  | .scalar kind default => do
    checkSingle f kind.word (holdsScalar f.type kind)
    checkDefault kind default
  | .bytes encoding => do
    checkSingle f "bytes" (holdsBytes f.type)
    checkEncoding encoding
  | .enumeration default =>
    match f.type with
    | .enumeration e => do
      checkSingle f "enum" true
      checkNumber e default
    | _ => checkSingle f "enum" false
  | .duration => checkSingle f "duration" (f.type.wellKnown? = some .duration)
  | .timestamp formats => do
    checkSingle f "timestamp" (f.type.wellKnown? = some .timestamp)
    checkFormats formats
  | .map format => checkMap f format
  | .message nested => if nested then checkNested s f else .ok ()
  | .repeated element => checkRepeated f element
  | .unknown name => .error (if name.isEmpty then .noKind else .unknownKind name)

/-- Whether a text is nothing but blanks. -/
def isBlankText (s : String) : Bool :=
  s.toList.all Text.isBlank

def checkShort : Option String → Except FieldFault Unit
  | some short => require (short.length = 1) (.longShort short)
  | none => .ok ()

def checkCommon (flags : FieldFlags) : Except FieldFault Unit := do
  checkShort flags.common.short
  require (!flags.registers || !isBlankText flags.common.usage) .noUsage
  require (!flags.common.deprecated || !isBlankText flags.common.deprecatedUsage) .noDeprecation

/-- The options of a field. Options that are disabled are only refused in a group of fields. -/
def checkField (s : Schema) (f : Field) (flags : FieldFlags) : Except FieldFault Unit :=
  match f.oneof with
  | some oneof => .error (.inOneof oneof)
  | none =>
    if flags.common.disabled then .ok ()
    else do
      checkKind s f flags.kind
      checkCommon flags

end FlagBinding.Check
