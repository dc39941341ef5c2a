import FlagBinding.Linked.Schema
import FlagBinding.Proofs.Options.Records

/-!
# Flag options as an author states them

The message types of flag options are declared in a file of their own. In its records every field
has its number, and a field that is not marked as optional is set only to something else than
nothing. What an author can state is a variant with the part that most variants share and with
settings of its own. It is written as a record of these types.

## Main definitions

* `flagsFile`, `declared`: the declaration of flag options, and its message types.
* `Shared`, `Variant`, `FlagOptions`: what an author states.
* `FlagOptions.record`: the record of that.

## Main statements

* `FlagOptions.hasType_record`: what is stated is written as a record of its message type.
-/

namespace FlagBinding.Options

open Schema (ScalarKind DefaultValue Carrier EnumType)

/-! ## The declaration -/

section Declaration

open Linked

/-- A field that is unset when it holds nothing. -/
def implicit (number : Nat) (name : String) (type : FieldType) : Linked.Field Unit :=
  ⟨name, number, .optional, type, none, false, ()⟩

def optional (number : Nat) (name : String) (type : FieldType) : Linked.Field Unit :=
  ⟨name, number, .optional, type, some ("_" ++ name), true, ()⟩

def repeated (number : Nat) (name : String) (type : FieldType) : Linked.Field Unit :=
  ⟨name, number, .repeated, type, none, false, ()⟩

def variant (number : Nat) (name type : String) : Linked.Field Unit :=
  ⟨name, number, .optional, .message type, some "type", false, ()⟩

def sharedFields : List (Linked.Field Unit) :=
  [implicit 1 "name" (.scalar .string), implicit 2 "short" (.scalar .string),
    implicit 3 "usage" (.scalar .string), implicit 4 "hidden" (.scalar .bool),
    implicit 5 "deprecated" (.scalar .bool), implicit 6 "deprecated_usage" (.scalar .string),
    implicit 7 "disabled" (.scalar .bool)]

/-- The variants for the elements of lists. -/
def elementVariants : List (Linked.Field Unit) :=
  [variant 1 "float" "flags.FloatFlags", variant 2 "double" "flags.DoubleFlags",
    variant 3 "int32" "flags.Int32Flags", variant 4 "int64" "flags.Int64Flags",
    variant 5 "uint32" "flags.UInt32Flags", variant 6 "uint64" "flags.UInt64Flags",
    variant 7 "sint32" "flags.Int32Flags", variant 8 "sint64" "flags.Int64Flags",
    variant 9 "fixed32" "flags.UInt32Flags", variant 10 "fixed64" "flags.UInt64Flags",
    variant 11 "sfixed32" "flags.Int32Flags", variant 12 "sfixed64" "flags.Int64Flags",
    variant 13 "bool" "flags.BoolFlags", variant 14 "string" "flags.StringFlags",
    variant 15 "bytes" "flags.BytesFlags", variant 16 "enum" "flags.EnumFlags",
    variant 17 "duration" "flags.DurationFlags", variant 18 "timestamp" "flags.TimestampFlags"]

def bytesEncoding : EnumType :=
  ⟨"BytesEncoding", "flags.BytesEncoding",
    [⟨"BYTES_ENCODING_UNSPECIFIED", 0⟩, ⟨"BYTES_ENCODING_BASE64", 1⟩, ⟨"BYTES_ENCODING_HEX", 2⟩]⟩

def mapFormat : EnumType :=
  ⟨"MapFormat", "flags.MapFormat",
    [⟨"MAP_FORMAT_UNSPECIFIED", 0⟩, ⟨"MAP_FORMAT_JSON", 1⟩, ⟨"MAP_FORMAT_STRING_TO_STRING", 2⟩,
      ⟨"MAP_FORMAT_STRING_TO_INT", 3⟩]⟩

def messageType (name : String) (fields : List (Linked.Field Unit)) : Message Unit :=
  ⟨name, false, fields, [], ()⟩

/-- The file in which flag options are declared. -/
def flagsFile : File Unit where
  name := "flags/flags.proto"
  package := "flags"
  edition := .proto3
  messages := [
    messageType "MessageFlags" [implicit 1 "disabled" (.scalar .bool)],
    messageType "FieldFlags" (elementVariants ++ [variant 19 "repeated" "flags.RepeatedFlags",
      variant 20 "map" "flags.MapFlags", variant 21 "message" "flags.SubmessageFlags"]),
    messageType "FloatFlags" (sharedFields ++ [optional 8 "default" (.scalar .float)]),
    messageType "DoubleFlags" (sharedFields ++ [optional 8 "default" (.scalar .double)]),
    messageType "Int32Flags" (sharedFields ++ [optional 8 "default" (.scalar .int32)]),
    messageType "Int64Flags" (sharedFields ++ [optional 8 "default" (.scalar .int64)]),
    messageType "UInt32Flags" (sharedFields ++ [optional 8 "default" (.scalar .uint32)]),
    messageType "UInt64Flags" (sharedFields ++ [optional 8 "default" (.scalar .uint64)]),
    messageType "BoolFlags" (sharedFields ++ [optional 8 "default" (.scalar .bool)]),
    messageType "StringFlags" sharedFields,
    messageType "BytesFlags" (sharedFields ++ [implicit 8 "encoding" (.enumeration bytesEncoding)]),
    messageType "EnumFlags" (sharedFields ++ [optional 8 "default" (.scalar .int32)]),
    messageType "DurationFlags" sharedFields,
    messageType "TimestampFlags" (sharedFields ++ [repeated 8 "formats" (.scalar .string)]),
    messageType "MapFlags" (sharedFields ++ [implicit 8 "format" (.enumeration mapFormat)]),
    messageType "SubmessageFlags" [implicit 1 "name" (.scalar .string),
      implicit 7 "disabled" (.scalar .bool), implicit 8 "nested" (.scalar .bool)],
    messageType "RepeatedFlags" elementVariants]

def declared : Catalogue :=
  catalogue flagsFile.types []

end Declaration

def shapeOf (f : Linked.Field Unit) : FieldShape :=
  f.shape f.name .proto3

/-! ## What an author states -/

/-- The part that most variants share. -/
structure Shared where
  name : String
  short : String
  usage : String
  hidden : Bool
  deprecated : Bool
  deprecatedUsage : String
  disabled : Bool
  deriving DecidableEq

def Shared.values (s : Shared) : List (Option Value) :=
  [some (.text s.name), some (.text s.short), some (.text s.usage), some (.plain (.bool s.hidden)),
    some (.plain (.bool s.deprecated)), some (.text s.deprecatedUsage),
    some (.plain (.bool s.disabled))]

/-- A default for what a field holds; a text has none. -/
abbrev Default (carrier : Carrier) : Type :=
  { d : DefaultValue // d.carrier = carrier }

/-- A variant for a single value or for the elements of a list. -/
inductive Variant
  | scalar (kind : ScalarKind) (shared : Shared) (default : Option (Default kind.carrier))
  | bytes (shared : Shared) (encoding : Int32)
  | enumeration (shared : Shared) (default : Option Int32)
  | duration (shared : Shared)
  | timestamp (shared : Shared) (formats : List String)

/-- The message type for scalars that hold the same. -/
def scalarType : Carrier → String
  | .single => "flags.FloatFlags"
  | .double => "flags.DoubleFlags"
  | .int32 => "flags.Int32Flags"
  | .int64 => "flags.Int64Flags"
  | .uint32 => "flags.UInt32Flags"
  | .uint64 => "flags.UInt64Flags"
  | .bool => "flags.BoolFlags"
  | .text => "flags.StringFlags"

/-- The field for a default among scalars that hold the same. -/
def defaultFields : Carrier → List (Linked.Field Unit)
  | .single => [optional 8 "default" (.scalar .float)]
  | .double => [optional 8 "default" (.scalar .double)]
  | .int32 => [optional 8 "default" (.scalar .int32)]
  | .int64 => [optional 8 "default" (.scalar .int64)]
  | .uint32 => [optional 8 "default" (.scalar .uint32)]
  | .uint64 => [optional 8 "default" (.scalar .uint64)]
  | .bool => [optional 8 "default" (.scalar .bool)]
  | .text => []

def variantSlot (number : Nat) (name : String) : Slot :=
  ⟨name, number, some "type"⟩

namespace Variant

def slot : Variant → Slot
  | scalar kind _ _ => variantSlot (ScalarKind.all.idxOf kind + 1) kind.word
  | bytes _ _ => variantSlot 15 "bytes"
  | enumeration _ _ => variantSlot 16 "enum"
  | duration _ => variantSlot 17 "duration"
  | timestamp _ _ => variantSlot 18 "timestamp"

def type : Variant → String
  | scalar kind _ _ => scalarType kind.carrier
  | bytes _ _ => "flags.BytesFlags"
  | enumeration _ _ => "flags.EnumFlags"
  | duration _ => "flags.DurationFlags"
  | timestamp _ _ => "flags.TimestampFlags"

def shared : Variant → Shared
  | scalar _ s _ => s
  | bytes s _ => s
  | enumeration s _ => s
  | duration s => s
  | timestamp s _ => s

def own : Variant → Option Value
  | scalar _ _ default => default.map fun d => .plain d.1
  | bytes _ encoding => some (.enumeration encoding)
  | enumeration _ default => default.map fun n => .plain (.int32 n)
  | duration _ => none
  | timestamp _ formats => some (.list (formats.map .text))

/-- The fields that the message type of the variant has beside the shared ones. -/
def ownFields : Variant → List (Linked.Field Unit)
  | scalar kind _ _ => defaultFields kind.carrier
  | bytes _ _ => [implicit 8 "encoding" (.enumeration bytesEncoding)]
  | enumeration _ _ => [optional 8 "default" (.scalar .int32)]
  | duration _ => []
  | timestamp _ _ => [repeated 8 "formats" (.scalar .string)]

def record (v : Variant) : Record :=
  assemble (declared v.type) (v.shared.values ++ [v.own])

def member (v : Variant) : Slot × Value :=
  (v.slot, .record v.record)

end Variant

def mapRecord (shared : Shared) (format : Int32) : Record :=
  assemble (declared "flags.MapFlags") (shared.values ++ [some (.enumeration format)])

def messageRecord (name : String) (disabled nested : Bool) : Record :=
  assemble (declared "flags.SubmessageFlags")
    [some (.text name), some (.plain (.bool disabled)), some (.plain (.bool nested))]

/-- What an author states of a flag. -/
inductive FlagOptions
  /-- No variant at all. -/
  | unset
  | single (v : Variant)
  /-- A list, perhaps without a variant for its elements. -/
  | repeated (element : Option Variant)
  | map (shared : Shared) (format : Int32)
  | message (name : String) (disabled nested : Bool)

/-- The record of what is stated. -/
def FlagOptions.record : FlagOptions → Record
  | unset => []
  | single v => [v.member]
  | repeated element =>
    [(variantSlot 19 "repeated", .record (element.toList.map Variant.member))]
  | map shared format => [(variantSlot 20 "map", .record (mapRecord shared format))]
  | message name disabled nested =>
    [(variantSlot 21 "message", .record (messageRecord name disabled nested))]

/-! ## What is stated has its type -/

theorem declared_scalarType (carrier : Carrier) :
    declared (scalarType carrier) = (sharedFields ++ defaultFields carrier).map shapeOf := by
  cases carrier <;> rfl

theorem Variant.declared_type (v : Variant) :
    declared v.type = (sharedFields ++ v.ownFields).map shapeOf := by
  cases v with
  | scalar kind => exact declared_scalarType kind.carrier
  | _ => rfl

/-- The message types of all variants, apart from those in which a variant is set. -/
def variantTypes : List String :=
  ["flags.FloatFlags", "flags.DoubleFlags", "flags.Int32Flags", "flags.Int64Flags",
    "flags.UInt32Flags", "flags.UInt64Flags", "flags.BoolFlags", "flags.StringFlags",
    "flags.BytesFlags", "flags.EnumFlags", "flags.DurationFlags", "flags.TimestampFlags",
    "flags.MapFlags", "flags.SubmessageFlags"]

theorem compatible_declared : ∀ type ∈ variantTypes, Compatible (declared type) := by
  decide

theorem scalarType_mem (carrier : Carrier) : scalarType carrier ∈ variantTypes := by
  cases carrier <;> decide

theorem Variant.type_mem (v : Variant) : v.type ∈ variantTypes := by
  cases v with
  | scalar kind => exact scalarType_mem kind.carrier
  | _ => simp [type, variantTypes]

theorem Variant.compatible (v : Variant) : Compatible (declared v.type) :=
  compatible_declared _ v.type_mem

variable {nested : String → Record → Prop} {depth : Nat}

theorem fits_shared (s : Shared) :
    ∀ x ∈ (sharedFields.map shapeOf).zip s.values, ∀ v ∈ x.2, x.1.Fits nested v := by
  simp only [sharedFields, Shared.values, List.map_cons, List.map_nil, List.zip_cons_cons,
    List.zip_nil_right, List.forall_mem_cons, Option.mem_def, Option.some.injEq, forall_eq']
  exact ⟨.text _, .text _, .text _, .plain rfl, .plain rfl, .text _, .plain rfl, by simp⟩

theorem fits_shared_append (fields : List (Linked.Field Unit)) {o : Option Value} (s : Shared)
    (own : ∀ x ∈ (fields.map shapeOf).zip [o], ∀ w ∈ x.2, x.1.Fits nested w) :
    ∀ x ∈ ((sharedFields ++ fields).map shapeOf).zip (s.values ++ [o]), ∀ w ∈ x.2,
      x.1.Fits nested w := by
  have same : (sharedFields.map shapeOf).length = s.values.length := rfl
  rw [List.map_append, List.zip_append same, List.forall_mem_append]
  exact ⟨fits_shared s, own⟩

theorem fits_single {f : Linked.Field Unit} {o : Option Value}
    (fits : ∀ w ∈ o, (shapeOf f).Fits nested w) :
    ∀ x ∈ ([f].map shapeOf).zip [o], ∀ w ∈ x.2, x.1.Fits nested w :=
  List.forall_mem_singleton.2 fits

theorem fits_default {carrier : Carrier} {o : Option Value}
    (own : ∀ w ∈ o, ∃ d : DefaultValue, w = .plain d ∧ d.carrier = carrier) :
    ∀ x ∈ ((defaultFields carrier).map shapeOf).zip [o], ∀ w ∈ x.2, x.1.Fits nested w := by
  cases carrier with
  | text => simp [defaultFields]
  | _ =>
    refine fits_single fun w set => ?_
    obtain ⟨d, rfl, carrier⟩ := own w set
    exact .plain carrier

theorem Variant.fits_own (v : Variant) :
    ∀ x ∈ (v.ownFields.map shapeOf).zip [v.own], ∀ w ∈ x.2, x.1.Fits nested w := by
  cases v with
  | scalar kind s default =>
    refine fits_default fun w set => ?_
    obtain ⟨d, -, rfl⟩ := Option.map_eq_some_iff.1 set
    exact ⟨d, rfl, d.2⟩
  | bytes s encoding =>
    refine fits_single fun w set => ?_
    cases set
    exact .enumeration encoding
  | enumeration s default =>
    refine fits_single fun w set => ?_
    obtain ⟨n, -, rfl⟩ := Option.map_eq_some_iff.1 set
    exact .plain rfl
  | duration s => simp [ownFields]
  | timestamp s formats =>
    refine fits_single fun w set => ?_
    cases set
    refine ⟨_, rfl, fun x mem => ?_⟩
    obtain ⟨t, -, rfl⟩ := List.mem_map.1 mem
    exact .text t

/-- A variant is written as a record of its type. -/
theorem Variant.hasType_record (v : Variant) : HasType declared (depth + 1) v.type v.record := by
  refine hasType_assemble v.compatible ?_
  rw [declared_type]
  exact fits_shared_append v.ownFields v.shared v.fits_own

theorem Variant.field?_slot (v : Variant) :
    declared.field? "flags.FieldFlags" v.slot.number = some ⟨v.slot, .record v.type, false, true⟩ ∧
      declared.field? "flags.RepeatedFlags" v.slot.number =
        some ⟨v.slot, .record v.type, false, true⟩ := by
  cases v with
  | scalar kind => cases kind <;> exact ⟨rfl, rfl⟩
  | _ => exact ⟨rfl, rfl⟩

/-- The record of a message is set among variants. -/
theorem hasType_variant (inner : String) {type : String} {slot : Slot} {r : Record}
    (field : declared.field? type slot.number = some ⟨slot, .record inner, false, true⟩)
    (typed : HasType declared depth inner r) :
    HasType declared (depth + 1) type [(slot, .record r)] :=
  hasType_singleton field rfl ⟨.record typed, rfl⟩

/-- What is stated is written as a record of its message type. -/
theorem FlagOptions.hasType_record (o : FlagOptions) :
    HasType declared 3 "flags.FieldFlags" o.record := by
  cases o with
  | unset => exact .nil ..
  | single v => exact hasType_variant _ v.field?_slot.1 v.hasType_record
  | repeated element =>
    refine hasType_variant "flags.RepeatedFlags" rfl ?_
    cases element with
    | none => exact .nil ..
    | some v => exact hasType_variant _ v.field?_slot.2 v.hasType_record
  | map shared format =>
    refine hasType_variant "flags.MapFlags" rfl ?_
    refine hasType_assemble (compatible_declared _ (by decide)) ?_
    refine fits_shared_append [implicit 8 "format" (.enumeration mapFormat)] shared ?_
    refine fits_single fun w set => ?_
    cases set
    exact .enumeration format
  | message name disabled nested =>
    refine hasType_variant "flags.SubmessageFlags" rfl ?_
    refine hasType_assemble (compatible_declared _ (by decide)) ?_
    refine List.forall_mem_cons.2 ⟨?_, List.forall_mem_cons.2 ⟨?_, fits_single ?_⟩⟩
    all_goals
      intro w set
      cases set
    · exact .text name
    · exact .plain rfl
    · exact .plain rfl

end FlagBinding.Options
