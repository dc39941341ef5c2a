import FlagBinding.Options.Record

/-!
# Flag options of records

The options of a flag are a record in which one variant is set, under the name of a kind. The
variant is a record with the part that all flags have and with the settings of the kind. A variant
for lists holds in turn a record in which a variant for the elements is set, and the common part is
there.

## Main definitions

* `variant?`: the variant that is set in a record.
* `fieldFlags`: the flag options that a record describes.
* `isDisabled`: whether a record switches a message off.
-/

namespace FlagBinding.Options

open Schema

namespace Record

def text? (r : Record) (name : String) : Option String :=
  (r.get? name).bind Value.text?

/-- The text in a field, unless it is empty. -/
def word? (r : Record) (name : String) : Option String :=
  (r.text? name).filter fun s => !s.isEmpty

def flag (r : Record) (name : String) : Bool :=
  ((r.get? name).bind Value.bool?).getD false

def choice? (r : Record) (name : String) : Option Int32 :=
  (r.get? name).bind Value.enumeration?

/-- The number in a field for an enumeration, or zero. -/
def choice (r : Record) (name : String) : Int32 :=
  (r.choice? name).getD 0

def texts (r : Record) (name : String) : List String :=
  ((r.get? name).map Value.items).getD [] |>.filterMap Value.text?

def plain? (r : Record) (name : String) : Option DefaultValue :=
  (r.get? name).bind Value.plain?

end Record

def variant? (r : Record) : Option (String × Record) :=
  r.findSome? fun (slot, v) =>
    if slot.oneof.isSome then v.record?.map fun inner => (slot.name, inner) else none

/-- The part that all flags have. -/
def common (r : Record) : FlagCommon where
  name := r.word? "name"
  short := r.word? "short"
  usage := (r.text? "usage").getD ""
  hidden := r.flag "hidden"
  deprecated := r.flag "deprecated"
  deprecatedUsage := (r.text? "deprecated_usage").getD ""
  disabled := r.flag "disabled"

/-- The kind of list elements with a name, with its settings. -/
def elementKind (name : String) (r : Record) : ElementKind :=
  match ScalarKind.ofWord? name with
  | some kind => .scalar kind
  | none =>
    match name with
    | "bytes" => .bytes (.ofNumber (r.choice "encoding"))
    | "enum" => .enumeration
    | "duration" => .duration
    | "timestamp" => .timestamp (r.texts "formats")
    | other => .unknown other

/-- The options for a list whose elements a record describes. -/
def listFlags (r : Record) : FieldFlags :=
  match variant? r with
  | some (name, element) => ⟨common element, .repeated (elementKind name element)⟩
  | none => ⟨common r, .repeated (.unknown "")⟩

/-- The kind with a name, with its settings. -/
def flagKind (name : String) (r : Record) : FlagKind :=
  match name with
  | "bytes" => .bytes (.ofNumber (r.choice "encoding"))
  | "enum" => .enumeration (r.choice? "default")
  | "duration" => .duration
  | "timestamp" => .timestamp (r.texts "formats")
  | "map" => .map (.ofNumber (r.choice "format"))
  | "message" => .message (r.flag "nested")
  | other =>
    match ScalarKind.ofWord? other with
    | some kind => .scalar kind (r.plain? "default")
    | none => .unknown other

def fieldFlags (r : Record) : FieldFlags :=
  match variant? r with
  | none => ⟨{}, .unknown ""⟩
  | some ("repeated", inner) => listFlags inner
  | some (name, inner) => ⟨common inner, flagKind name inner⟩

def isDisabled (r : Record) : Bool :=
  r.flag "disabled"

end FlagBinding.Options
