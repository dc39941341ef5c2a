import FlagBinding.Cell
import FlagBinding.Schema.Basic

/-!
# The contents of messages

A message is a record: its fields by name, each with what it holds. What a field can hold follows
from its type and from whether it is a map, a list or optional.

## Main definitions

* `Datum`: a single value; `ItemType`: its type.
* `StorageType`, `storageOf`: what a field can hold.
* `Content`, `Record`: what a field and a message hold.
-/

namespace FlagBinding.Binding

open Number Schema

/-- The type of a single value. -/
inductive ItemType
  | bool
  | int32
  | int64
  | uint32
  | uint64
  | single
  | double
  | text
  | bytes
  | duration
  | timestamp
  | json
  | message (fullName : String)
  deriving DecidableEq

/-- A single value. -/
inductive Datum
  | bool (b : Bool)
  | int32 (n : Int32)
  | int64 (n : Int64)
  | uint32 (n : UInt32)
  | uint64 (n : UInt64)
  | single (x : Floating .single)
  | double (x : Floating .double)
  | text (s : String)
  | bytes (bytes : List UInt8)
  | duration (d : Time.Duration)
  | timestamp (t : Timestamp)
  | json (v : Json.Value)

/-- What a field can hold. -/
inductive StorageType
  | plain (type : ItemType)
  | optional (type : ItemType)
  | list (type : ItemType)
  | map (type : ItemType)
  | message (fullName : String)
  deriving DecidableEq

/-- The type of what a scalar field holds. -/
def ItemType.ofCarrier : Carrier → ItemType
  | .single => single
  | .double => double
  | .int32 => int32
  | .int64 => int64
  | .uint32 => uint32
  | .uint64 => uint64
  | .bool => bool
  | .text => text

/-- The type of a value of a field type. Wrappers hold what is wrapped, and enumerations numbers. -/
def ItemType.ofFieldType : FieldType → ItemType
  | .scalar kind => ofCarrier kind.carrier
  | .bytes => bytes
  | .enumeration _ => int32
  | .message m =>
    match m.wellKnown with
    | some (.wrapper kind) => ofCarrier kind.carrier
    | some .bytesValue => bytes
    | some .duration => duration
    | some .timestamp => timestamp
    | _ => message m.fullName

/-- What a field can hold. -/
def storageOf (f : Field) : StorageType :=
  match f.map with
  | some entry => .map (.ofFieldType entry.value)
  | none =>
    let type := ItemType.ofFieldType f.type
    if f.repeated then .list type
    else if f.optional || f.type.wellKnown?.isSome then .optional type
    else match type with
      | .message fullName => .message fullName
      | _ => .plain type

/-- What a field holds: an entry of a record. -/
inductive Content
  | plain (d : Datum)
  | optional (d : Option Datum)
  | list (ds : List Datum)
  | map (type : ItemType) (entries : Dict Datum)
  /-- A message, given as a record, or none. -/
  | message (record : Option (List (String × Content)))

instance : Inhabited Content := ⟨.optional none⟩

/-- The fields of a message by name. -/
abbrev Record := List (String × Content)

/-- The value of a type before it is set. -/
def Datum.blank : ItemType → Datum
  | .bool => bool false
  | .int32 => int32 0
  | .int64 => int64 0
  | .uint32 => uint32 0
  | .uint64 => uint64 0
  | .single => single (.zero false)
  | .double => double (.zero false)
  | .text => text ""
  | .bytes => bytes []
  | .duration => duration ⟨0, 0⟩
  | .timestamp => timestamp ⟨0, 0⟩
  | .json => json .null
  | .message _ => json .null

/-- What a field holds before it is set. -/
def Content.blank : StorageType → Content
  | .plain type => plain (.blank type)
  | .optional (.message _) => message none
  | .optional _ => optional none
  | .list _ => list []
  | .map type => map type .empty
  | .message _ => message none

namespace Record

/-- The record of a message before anything is set. -/
def blank (m : Message) : Record :=
  m.fields.map fun f => (f.name, .blank (storageOf f))

def get? (r : Record) (field : String) : Option Content :=
  (r.find? (·.1 = field)).map (·.2)

def put (r : Record) (field : String) (content : Content) : Record :=
  r.map fun entry => if entry.1 = field then (field, content) else entry

/-- The record with another content of a field of a message inside it. -/
def putAt (r : Record) (content : Content) : List String → Record
  | [] => r
  | [field] => r.put field content
  | field :: path =>
    match r.get? field with
    | some (.message (some inner)) => r.put field (.message (some (putAt inner content path)))
    | _ => r

end Record

end FlagBinding.Binding
