import FlagBinding.Schema.Options
import FlagBinding.Wire.Varint

/-!
# Records

A record holds the fields of a message that are set, in the order of their numbers. Its type is not
known beforehand: every field brings its name and its number.

## Main definitions

* `Slot`, `Value`, `Record`: a field of a message, what is set in it, and all that is set.
* `Record.get?`, `Record.at?`: look-up by name and by number.
* `Record.put`: sets a field, and unsets the other fields of its group.
-/

namespace FlagBinding.Options

open Schema (DefaultValue)
open Wire (Bytes)

/-- A field of a message. -/
structure Slot where
  name : String
  number : Nat
  /-- The group of fields of which at most one is set. -/
  oneof : Option String
  deriving DecidableEq

/-- What is set in a field. -/
inductive Value
  /-- A number or a truth value. -/
  | plain (value : DefaultValue)
  | text (s : String)
  | bytes (b : Bytes)
  | enumeration (number : Int32)
  | record (members : List (Slot × Value))
  | list (items : List Value)

/-- The fields that are set. -/
abbrev Record := List (Slot × Value)

namespace Value

def text? : Value → Option String
  | text s => some s
  | _ => none

def bool? : Value → Option Bool
  | plain (.bool b) => some b
  | _ => none

def plain? : Value → Option DefaultValue
  | plain d => some d
  | _ => none

/-- The number of an enumeration value or of a signed 32-bit number. -/
def enumeration? : Value → Option Int32
  | enumeration n => some n
  | plain (.int32 n) => some n
  | _ => none

def record? : Value → Option Record
  | record members => some members
  | _ => none

/-- The members of a list; any other value has none. -/
def items : Value → List Value
  | list items => items
  | _ => []

end Value

namespace Record

def get? (r : Record) (name : String) : Option Value :=
  (r.find? (·.1.name = name)).map (·.2)

def at? (r : Record) (number : Nat) : Option Value :=
  (r.find? (·.1.number = number)).map (·.2)

def erase (r : Record) (number : Nat) : Record :=
  r.filter (·.1.number ≠ number)

/-- The record with a member in the place that its number gives it. -/
def insertByNumber (member : Slot × Value) : Record → Record
  | [] => [member]
  | m :: rest =>
    if member.1.number ≤ m.1.number then member :: m :: rest else m :: insertByNumber member rest

/-- Whether one of two fields has to be unset when the other is set. -/
def excludes (a b : Slot) : Bool :=
  a.number == b.number || (a.oneof.isSome && a.oneof == b.oneof)

def put (r : Record) (slot : Slot) (v : Value) : Record :=
  insertByNumber (slot, v) (r.filter fun m => !excludes slot m.1)

end Record

end FlagBinding.Options
