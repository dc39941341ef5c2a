/-!
# UTF-8

A text as bytes and back. A byte string that is no text is refused with the place where its first
ill-formed sequence starts and the length of that sequence.

## Main definitions

* `Utf8.encode`: the bytes of a text.
* `Utf8.decode`: the text of a byte string, or the first fault in it.
-/

namespace FlagBinding.Text.Utf8

/-- The first ill-formed sequence of a byte string. -/
structure Fault where
  /-- How many bytes stand before the sequence. -/
  offset : Nat
  /-- How many bytes the sequence has, unless the input ends inside a character. -/
  length : Option Nat
  deriving DecidableEq, Repr

def Fault.message (f : Fault) : String :=
  match f.length with
  | some n =>
    "invalid utf-8 sequence of " ++ toString n ++ " bytes from index " ++ toString f.offset
  | none => "incomplete utf-8 byte sequence from index " ++ toString f.offset

def encodeChars (cs : List Char) : List UInt8 :=
  cs.flatMap String.utf8EncodeChar

def encode (s : String) : List UInt8 :=
  encodeChars s.toList

/-- Whether `b` lies between `lo` and `hi`. -/
def within (lo hi b : UInt8) : Bool :=
  lo ≤ b && b ≤ hi

def isContinuation (b : UInt8) : Bool :=
  within 0x80 0xBF b

/-- How many bytes a character takes that starts with the byte `b`. -/
def width? (b : UInt8) : Option Nat :=
  if b < 0x80 then some 1
  else if within 0xC2 0xDF b then some 2
  else if within 0xE0 0xEF b then some 3
  else if within 0xF0 0xF4 b then some 4
  else none

/-- Whether `second` may follow the lead byte `lead`: it excludes overlong forms, surrogates and
code points beyond the last one. -/
def secondFits (lead second : UInt8) : Bool :=
  if lead == 0xE0 then within 0xA0 0xBF second
  else if lead == 0xED then within 0x80 0x9F second
  else if lead == 0xF0 then within 0x90 0xBF second
  else if lead == 0xF4 then within 0x80 0x8F second
  else isContinuation second

/-- The six bits that a continuation byte carries. -/
def payload (b : UInt8) : Nat :=
  b.toNat % 64

/-- The text of `bytes`, of which the first stands at `offset`. -/
def decodeFrom (offset : Nat) : List UInt8 → Except Fault (List Char)
  | [] => .ok []
  | b :: rest =>
    match width? b with
    | none => .error ⟨offset, some 1⟩
    | some 1 => (Char.ofNat b.toNat :: ·) <$> decodeFrom (offset + 1) rest
    | some 2 =>
      match rest with
      | [] => .error ⟨offset, none⟩
      | c :: rest =>
        if !secondFits b c then .error ⟨offset, some 1⟩
        else (Char.ofNat (b.toNat % 32 * 64 + payload c) :: ·) <$> decodeFrom (offset + 2) rest
    | some 3 =>
      match rest with
      | [] => .error ⟨offset, none⟩
      | c :: [] => .error ⟨offset, if secondFits b c then none else some 1⟩
      | c :: d :: rest =>
        if !secondFits b c then .error ⟨offset, some 1⟩
        else if !isContinuation d then .error ⟨offset, some 2⟩
        else (Char.ofNat ((b.toNat % 16 * 64 + payload c) * 64 + payload d) :: ·) <$>
          decodeFrom (offset + 3) rest
    | some _ =>
      match rest with
      | [] => .error ⟨offset, none⟩
      | c :: [] => .error ⟨offset, if secondFits b c then none else some 1⟩
      | c :: d :: [] =>
        .error ⟨offset, if !secondFits b c then some 1 else if isContinuation d then none
          else some 2⟩
      | c :: d :: e :: rest =>
        if !secondFits b c then .error ⟨offset, some 1⟩
        else if !isContinuation d then .error ⟨offset, some 2⟩
        else if !isContinuation e then .error ⟨offset, some 3⟩
        else
          (Char.ofNat (((b.toNat % 8 * 64 + payload c) * 64 + payload d) * 64 + payload e) :: ·) <$>
            decodeFrom (offset + 4) rest

/-- The text of a byte string, or its first fault. -/
def decode (bytes : List UInt8) : Except Fault String :=
  String.ofList <$> decodeFrom 0 bytes

end FlagBinding.Text.Utf8
