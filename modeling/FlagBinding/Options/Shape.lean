import FlagBinding.Options.Record
import FlagBinding.Wire.Known

/-!
# Shapes of records

A shape says how the fields of a message are declared, and with that how a byte string becomes a
record. Entries of unknown fields are left out. Every occurrence of a message adds to the ones
before it, every occurrence of a list prolongs it, and any other value takes the place of an earlier
one. A field that does not keep zeros is unset when it is zero.

## Main definitions

* `Kind`, `FieldShape`, `Catalogue`: how the fields of messages are declared.
* `Catalogue.decode?`: the record of a byte string.
-/

namespace FlagBinding.Options

open Number
open Schema (ScalarKind DefaultValue)
open Wire (Bytes Entry Form Payload)

/-- What a field holds, or each of its elements. -/
inductive Kind
  | scalar (kind : ScalarKind)
  | bytes
  | enumeration
  | record (type : String)
  | group (type : String)

/-- How a field is declared. -/
structure FieldShape where
  slot : Slot
  kind : Kind
  repeated : Bool
  /-- Whether a zero counts as set. -/
  keepsZero : Bool

/-- The fields of every message type. -/
abbrev Catalogue := String → List FieldShape

/-! ## Scalars -/

/-- The form of the entries of a kind. -/
def formOf : ScalarKind → Form
  | .float => .fixed32
  | .double => .fixed64
  | .fixed32 => .fixed32
  | .fixed64 => .fixed64
  | .sfixed32 => .fixed32
  | .sfixed64 => .fixed64
  | .string => .delimited
  | _ => .varint

/-- The integer of a number in which the lowest bit is the sign. -/
def zigzag (n : Nat) : Int :=
  if n % 2 = 0 then n / 2 else -(n / 2) - 1

/-- The number or the truth value of the bits that an entry of a kind holds. -/
def ofBits : ScalarKind → Nat → DefaultValue
  | .float, n => .single (.ofBits32 n)
  | .double, n => .double (.ofBits64 n)
  | .int32, n => .int32 (.ofNat n)
  | .int64, n => .int64 (.ofNat n)
  | .uint32, n => .uint32 (.ofNat n)
  | .uint64, n => .uint64 (.ofNat n)
  | .sint32, n => .int32 (.ofInt (zigzag (n % 2 ^ 32)))
  | .sint64, n => .int64 (.ofInt (zigzag n))
  | .fixed32, n => .uint32 (.ofNat n)
  | .fixed64, n => .uint64 (.ofNat n)
  | .sfixed32, n => .int32 (.ofNat n)
  | .sfixed64, n => .int64 (.ofNat n)
  | .bool, n => .bool (n ≠ 0)
  | .string, n => .bool (n ≠ 0)

def bits? : Form → Payload → Option Nat
  | .varint, .varint n => some n
  | .fixed32, .fixed32 n => some n
  | .fixed64, .fixed64 n => some n
  | _, _ => none

def scalar? (kind : ScalarKind) (p : Payload) : Option Value :=
  match kind with
  | .string => p.text?.map .text
  | kind => (bits? (formOf kind) p).map fun n => .plain (ofBits kind n)

/-- Whether a number or a truth value is zero. -/
def isZero : DefaultValue → Bool
  | .single (.finite _ m _) => m = 0
  | .double (.finite _ m _) => m = 0
  | .single _ => false
  | .double _ => false
  | .int32 n => n = 0
  | .int64 n => n = 0
  | .uint32 n => n = 0
  | .uint64 n => n = 0
  | .bool b => !b

/-! ## Fields -/

namespace Kind

/-- The form of the members of a packed list, if lists of the kind may be packed. -/
def packedForm? : Kind → Option Form
  | scalar .string => none
  | scalar kind => some (formOf kind)
  | enumeration => some .varint
  | _ => none

/-- The value of a payload. `nested` reads a message of a type into a record, and `before` is what
the field held. -/
def read? (nested : String → Record → List Entry → Option Record) (before : Option Value)
    (p : Payload) : Kind → Option Value
  | scalar kind => scalar? kind p
  | bytes => p.bytes?.map .bytes
  | enumeration => p.int32?.map .enumeration
  | record type =>
    (p.entries?.bind (nested type ((before.bind Value.record?).getD []))).map .record
  | group type =>
    match p with
    | .group es => (nested type ((before.bind Value.record?).getD []) es).map .record
    | _ => none

def elements? (nested : String → Record → List Entry → Option Record) (p : Payload) (kind : Kind) :
    Option (List Value) :=
  match p, kind.packedForm? with
  | .delimited b, some form => (form.unpack? b).bind (·.mapM fun p => kind.read? nested none p)
  | p, _ => (kind.read? nested none p).map ([·])

/-- Whether a value stands for no value. -/
def isVoid : Kind → Value → Bool
  | scalar _, .plain d => isZero d
  | scalar _, .text s => s.isEmpty
  | bytes, .bytes b => b.isEmpty
  | enumeration, .enumeration n => n = 0
  | _, _ => false

end Kind

namespace FieldShape

def read? (f : FieldShape) (nested : String → Record → List Entry → Option Record)
    (before : Option Value) (p : Payload) : Option Value :=
  if f.repeated then
    (f.kind.elements? nested p).map fun vs => .list ((before.map Value.items).getD [] ++ vs)
  else f.kind.read? nested before p

/-- Whether a value leaves the field unset. -/
def isUnsetBy (f : FieldShape) (v : Value) : Bool :=
  if f.repeated then v.items.isEmpty else !f.keepsZero && f.kind.isVoid v

/-- The record with the field set, or unset by a value that stands for none. -/
def store (f : FieldShape) (r : Record) (v : Value) : Record :=
  if f.isUnsetBy v then r.erase f.slot.number else r.put f.slot v

end FieldShape

/-! ## Messages -/

/-- The record after one more entry. -/
def absorb? (fields : List FieldShape) (nested : String → Record → List Entry → Option Record)
    (r : Record) (e : Entry) : Option Record :=
  match fields.find? (·.slot.number = e.1) with
  | some f => (f.read? nested (r.at? e.1) e.2).map (f.store r)
  | none => some r

namespace Catalogue

/-- The record after the entries of a message of a type that nests at most `depth` deep. -/
def merge? (c : Catalogue) : Nat → String → Record → List Entry → Option Record
  | 0, _, _, _ => none
  | depth + 1, type, r, es => es.foldlM (absorb? (c type) (c.merge? depth)) r

def decode? (c : Catalogue) (type : String) (bytes : Bytes) : Option Record :=
  (Entry.readAll? bytes).bind (c.merge? Wire.nestingLimit type [])

end Catalogue

end FlagBinding.Options
