import FlagBinding.Wire.Varint

/-!
# Entries of messages

On the wire a message is a list of numbered entries. The form of an entry says how its bytes end,
but not what they mean. A group is opened and closed by a pair of marks with one number, and groups
nest.

## Main definitions

* `Form`, `Payload`, `Entry`: the entries of a message.
* `Token.readAll?`: a byte string as entries outside groups and marks of groups.
* `nest?`: the marks of groups matched with each other.
* `Entry.readAll?`: the entries of a byte string.
* `Form.unpack?`: the members of a packed list.
* `writeVarint`, `writeDelimited`: the bytes of an entry.

## Main statements

* `Form.length_lt_of_read?`, `Token.length_lt_of_read?`: a reader takes at least one byte.
-/

namespace FlagBinding.Wire

/-- How the bytes of an entry outside groups end. -/
inductive Form
  | varint
  | fixed64
  | delimited
  | fixed32
  deriving DecidableEq

/-- What an entry holds. -/
inductive Payload
  | varint (n : Nat)
  | fixed64 (bits : Nat)
  | delimited (bytes : Bytes)
  | fixed32 (bits : Nat)
  | group (entries : List (Nat × Payload))

/-- A number and what is held under it. -/
abbrev Entry := Nat × Payload

/-- How deep messages and groups may nest. -/
def nestingLimit : Nat := 100

/-! ## Payloads -/

/-- The number of a byte string, of which the first byte weighs least. -/
def littleEndian (bytes : Bytes) : Nat :=
  bytes.foldr (fun b high => b.toNat + 256 * high) 0

/-- The first `n` bytes and the rest, if there are so many. -/
def split? (n : Nat) (bytes : Bytes) : Option (Bytes × Bytes) :=
  let body := bytes.take n
  if body.length < n then none else some (body, bytes.drop n)

theorem length_of_split? {n : Nat} {bytes body rest : Bytes}
    (h : split? n bytes = some (body, rest)) : rest.length + n = bytes.length := by
  simp only [split?] at h
  split at h
  · cases h
  · rename_i hn
    obtain ⟨-, rfl⟩ := Prod.mk.inj (Option.some.inj h)
    simp only [List.length_take, List.length_drop] at hn ⊢
    omega

namespace Form

/-- The payload of a form at the start of a byte string, and the bytes after it. -/
def read? (form : Form) (bytes : Bytes) : Option (Payload × Bytes) :=
  match form with
  | varint => (Varint.decode bytes).map fun (n, rest) => (.varint n, rest)
  | fixed64 => (split? 8 bytes).map fun (body, rest) => (.fixed64 (littleEndian body), rest)
  | delimited =>
    match Varint.decode bytes with
    | some (length, rest) => (split? length rest).map fun (body, rest) => (.delimited body, rest)
    | none => none
  | fixed32 => (split? 4 bytes).map fun (body, rest) => (.fixed32 (littleEndian body), rest)

theorem length_lt_of_read? {form : Form} {bytes rest : Bytes} {p : Payload}
    (h : form.read? bytes = some (p, rest)) : rest.length < bytes.length := by
  cases form with
  | varint =>
    obtain ⟨⟨n, r⟩, hd, he⟩ := Option.map_eq_some_iff.1 h
    obtain ⟨-, rfl⟩ := Prod.mk.inj he
    exact Varint.length_lt_of_decode hd
  | fixed64 =>
    obtain ⟨⟨n, r⟩, hd, he⟩ := Option.map_eq_some_iff.1 h
    obtain ⟨-, rfl⟩ := Prod.mk.inj he
    have := length_of_split? hd
    omega
  | delimited =>
    simp only [read?] at h
    split at h
    · rename_i hv
      obtain ⟨⟨n, r⟩, hd, he⟩ := Option.map_eq_some_iff.1 h
      obtain ⟨-, rfl⟩ := Prod.mk.inj he
      have hl := length_of_split? hd
      exact Nat.lt_of_le_of_lt (Nat.le_of_add_right_le (Nat.le_of_eq hl))
        (Varint.length_lt_of_decode hv)
    · cases h
  | fixed32 =>
    obtain ⟨⟨n, r⟩, hd, he⟩ := Option.map_eq_some_iff.1 h
    obtain ⟨-, rfl⟩ := Prod.mk.inj he
    have := length_of_split? hd
    omega

/-- The members of a packed list: payloads of one form without keys. -/
def unpack? (form : Form) (bytes : Bytes) : Option (List Payload) :=
  match bytes with
  | [] => some []
  | b :: tail =>
    match _ : form.read? (b :: tail) with
    | some (p, rest) => (unpack? form rest).map (p :: ·)
    | none => none
termination_by bytes.length
decreasing_by exact length_lt_of_read? ‹_›

end Form

/-! ## Tokens -/

/-- A piece of a message: an entry that is no group, or a mark of a group. -/
inductive Token
  | entry (number : Nat) (payload : Payload)
  | opening (number : Nat)
  | closing (number : Nat)

/-- What a key announces under a number. -/
inductive Announced
  | payload (form : Form)
  | opening
  | closing

/-- What the type in a key announces. -/
def Announced.ofWireType? : Nat → Option Announced
  | 0 => some (payload .varint)
  | 1 => some (payload .fixed64)
  | 2 => some (payload .delimited)
  | 3 => some opening
  | 4 => some closing
  | 5 => some (payload .fixed32)
  | _ => none

/-- The number in a key and what it announces. Numbers start at one, and keys have 32 bits. -/
def ofKey? (key : Nat) : Option (Nat × Announced) :=
  if key < 8 ∨ 2 ^ 32 ≤ key then none
  else (Announced.ofWireType? (key % 8)).map fun announced => (key / 8, announced)

namespace Token

/-- The token at the start of a byte string, and the bytes after it. -/
def read? (bytes : Bytes) : Option (Token × Bytes) :=
  match Varint.decode bytes with
  | some (key, rest) =>
    match ofKey? key with
    | some (number, .payload form) =>
      (form.read? rest).map fun (payload, rest) => (entry number payload, rest)
    | some (number, .opening) => some (opening number, rest)
    | some (number, .closing) => some (closing number, rest)
    | none => none
  | none => none

theorem length_lt_of_read? {bytes rest : Bytes} {t : Token} (h : read? bytes = some (t, rest)) :
    rest.length < bytes.length := by
  unfold read? at h
  split at h
  · rename_i hv
    have hk := Varint.length_lt_of_decode hv
    split at h
    · obtain ⟨⟨p, r⟩, hd, he⟩ := Option.map_eq_some_iff.1 h
      obtain ⟨-, rfl⟩ := Prod.mk.inj he
      exact Nat.lt_trans (Form.length_lt_of_read? hd) hk
    · obtain ⟨-, rfl⟩ := Prod.mk.inj (Option.some.inj h)
      exact hk
    · obtain ⟨-, rfl⟩ := Prod.mk.inj (Option.some.inj h)
      exact hk
    · cases h
  · cases h

/-- All tokens of a byte string. -/
def readAll? (bytes : Bytes) : Option (List Token) :=
  match bytes with
  | [] => some []
  | b :: tail =>
    match _ : read? (b :: tail) with
    | some (t, rest) => (readAll? rest).map (t :: ·)
    | none => none
termination_by bytes.length
decreasing_by exact length_lt_of_read? ‹_›

end Token

/-! ## Entries -/

/-- The entries of a list of tokens. `outer` holds the groups that are open, the innermost first,
each with the entries in front of it; `done` holds the entries of the innermost one. Both lists of
entries are in reverse. -/
def nest? (outer : List (Nat × List Entry)) (done : List Entry) : List Token → Option (List Entry)
  | [] => if outer.isEmpty then some done.reverse else none
  | .entry number payload :: rest => nest? outer ((number, payload) :: done) rest
  | .opening number :: rest =>
    if outer.length < nestingLimit then nest? ((number, done) :: outer) [] rest else none
  | .closing number :: rest =>
    match outer with
    | (opened, before) :: outer =>
      if opened = number then nest? outer ((number, .group done.reverse) :: before) rest else none
    | [] => none

def Entry.readAll? (bytes : Bytes) : Option (List Entry) :=
  (Token.readAll? bytes).bind (nest? [] [])

def writeVarint (number n : Nat) : Bytes :=
  Varint.encode (number * 8) ++ Varint.encode n

def writeDelimited (number : Nat) (bytes : Bytes) : Bytes :=
  Varint.encode (number * 8 + 2) ++ (Varint.encode bytes.length ++ bytes)

end FlagBinding.Wire
