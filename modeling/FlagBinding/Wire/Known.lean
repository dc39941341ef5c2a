import FlagBinding.Text.Utf8
import FlagBinding.Wire.Entry

/-!
# Known entries

Reading the entries that a message is known to have. A reader fails if an entry under its number
does not have the right form, and does not look at other numbers. Where one value is expected, the
last one counts.

## Main definitions

* `Payload.text?`, `Payload.int32?`, …: what a payload means.
* `Known.texts?`, `Known.text?`, …: all values under a number, or the last one.
-/

namespace FlagBinding.Wire

open Text

namespace Payload

def bytes? : Payload → Option Bytes
  | delimited bytes => some bytes
  | _ => none

def text? (p : Payload) : Option String :=
  p.bytes?.bind fun bytes => (Utf8.decode bytes).toOption

def entries? (p : Payload) : Option (List Entry) :=
  p.bytes?.bind Entry.readAll?

def nat? : Payload → Option Nat
  | varint n => some n
  | _ => none

/-- The 32 low bits of a varint. -/
def int32? (p : Payload) : Option Int32 :=
  p.nat?.map Int32.ofNat

def bool? (p : Payload) : Option Bool :=
  p.nat?.map (· ≠ 0)

/-- The members of a list of 32-bit numbers, of which a payload holds one or, packed, any number. -/
def int32s? (p : Payload) : Option (List Int32) :=
  match p with
  | delimited bytes => (Form.varint.unpack? bytes).bind (·.mapM int32?)
  | p => p.int32?.map ([·])

end Payload

namespace Known

variable {α : Type}

def under (number : Nat) (entries : List Entry) : List Payload :=
  (entries.filter (·.1 = number)).map (·.2)

def all? (read : Payload → Option α) (number : Nat) (entries : List Entry) : Option (List α) :=
  (under number entries).mapM read

/-- The last value under a number, if there is any. -/
def last? (read : Payload → Option α) (number : Nat) (entries : List Entry) :
    Option (Option α) :=
  (all? read number entries).map (·.getLast?)

/-- The last text under a number, or the empty one. -/
def text? (number : Nat) (entries : List Entry) : Option String :=
  (last? Payload.text? number entries).map (·.getD "")

/-- The last 32-bit number under a number, or zero. -/
def int32? (number : Nat) (entries : List Entry) : Option Int32 :=
  (last? Payload.int32? number entries).map (·.getD 0)

/-- The last truth value under a number, or false. -/
def bool? (number : Nat) (entries : List Entry) : Option Bool :=
  (last? Payload.bool? number entries).map (·.getD false)

/-- The bytes of a message of which every occurrence under a number holds a part. -/
def merged? (number : Nat) (entries : List Entry) : Option Bytes :=
  (all? Payload.bytes? number entries).map (·.flatten)

end Known

end FlagBinding.Wire
