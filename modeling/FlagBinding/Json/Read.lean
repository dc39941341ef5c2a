import FlagBinding.Json.Number

/-!
# Reading JSON

Arrays and objects may be nested to a limited depth. Of several members of one name the last counts;
the members of the outermost object are given with their repetitions.

## Main definitions

* `Json.scanValue?`: the value at the start of a text.
* `Json.parseObject?`: the members of a text that is one object.
-/

namespace FlagBinding.Json

def isSpace (c : Char) : Bool :=
  c == ' ' || c == '\n' || c == '\t' || c == '\r'

def skipSpace (cs : List Char) : List Char :=
  cs.dropWhile isSpace

/-- The value of a hexadecimal digit of either case. -/
def hexValue? (c : Char) : Option Nat :=
  let n := c.toNat
  if 48 ≤ n ∧ n ≤ 57 then some (n - 48)
  else if 65 ≤ n ∧ n ≤ 70 then some (n - 55)
  else if 97 ≤ n ∧ n ≤ 102 then some (n - 87)
  else none

def hex4? (a b c d : Char) : Option Nat := do
  return (((← hexValue? a) * 16 + (← hexValue? b)) * 16 + (← hexValue? c)) * 16 + (← hexValue? d)

/-- The character of a short escape. -/
def unescape? : Char → Option Char
  | '"' => some '"'
  | '\\' => some '\\'
  | '/' => some '/'
  | 'b' => some '\x08'
  | 'f' => some '\x0c'
  | 'n' => some '\n'
  | 'r' => some '\r'
  | 't' => some '\t'
  | _ => none

def push (c : Char) : Option (List Char × List Char) → Option (List Char × List Char) :=
  Option.map fun (text, rest) => (c :: text, rest)

/-- The contents of a string whose opening quote has been read, and what follows it. A surrogate may
stand only in a pair. -/
def scanString? : List Char → Option (List Char × List Char)
  | [] => none
  | '"' :: rest => some ([], rest)
  | '\\' :: 'u' :: a :: b :: c :: d :: rest =>
    match hex4? a b c d with
    | none => none
    | some high =>
      if high < 0xD800 ∨ 0xDFFF < high then push (Char.ofNat high) (scanString? rest)
      else if 0xDC00 ≤ high then none
      else match rest with
        | '\\' :: 'u' :: e :: f :: g :: h :: rest =>
          match hex4? e f g h with
          | none => none
          | some low =>
            if low < 0xDC00 ∨ 0xDFFF < low then none
            else
              push (Char.ofNat (0x10000 + (high - 0xD800) * 0x400 + (low - 0xDC00)))
                (scanString? rest)
        | _ => none
  | '\\' :: c :: rest =>
    match unescape? c with
    | none => none
    | some c => push c (scanString? rest)
  | c :: rest => if c.toNat < 32 then none else push c (scanString? rest)

def scanWord? : List Char → List Char → Option (List Char)
  | [], cs => some cs
  | _ :: _, [] => none
  | w :: word, c :: cs => if w = c then scanWord? word cs else none

/-- How deep arrays and objects may be nested. -/
def depthLimit : Nat := 127

mutual

/-- The value at the start of a text without leading blanks. `depth` more levels may be opened;
`fuel` bounds the number of steps. -/
def scanValue? (depth : Nat) : Nat → List Char → Option (Value × List Char)
  | 0, _ => none
  | fuel + 1, cs =>
    match cs with
    | 'n' :: rest => (scanWord? "ull".toList rest).map (Value.null, ·)
    | 't' :: rest => (scanWord? "rue".toList rest).map (Value.bool true, ·)
    | 'f' :: rest => (scanWord? "alse".toList rest).map (Value.bool false, ·)
    | '"' :: rest => (scanString? rest).map fun (s, rest) => (.string (String.ofList s), rest)
    | '[' :: rest =>
      if depth = 0 then none
      else match skipSpace rest with
        | ']' :: rest => some (.array [], rest)
        | rest => (scanElements? (depth - 1) fuel rest).map fun (vs, rest) => (.array vs, rest)
    | '\x7b' :: rest =>
      if depth = 0 then none
      else match skipSpace rest with
        | '\x7d' :: rest => some (.object [], rest)
        | rest => (scanMembers? (depth - 1) fuel rest).map fun (ms, rest) =>
            (.object (ms.foldl (fun l m => Dict.insertEntry m.1 m.2 l) []), rest)
    | _ => scanNumber? cs

/-- The elements of an array from one element on, up to the closing bracket. -/
def scanElements? (depth : Nat) : Nat → List Char → Option (List Value × List Char)
  | 0, _ => none
  | fuel + 1, cs => do
    let (v, rest) ← scanValue? depth fuel cs
    match skipSpace rest with
    | ']' :: rest => some ([v], rest)
    | ',' :: rest =>
      let (vs, rest) ← scanElements? depth fuel (skipSpace rest)
      some (v :: vs, rest)
    | _ => none

/-- The members of an object from one member on, up to the closing brace. -/
def scanMembers? (depth : Nat) : Nat → List Char → Option (List (String × Value) × List Char)
  | 0, _ => none
  | fuel + 1, cs => do
    match cs with
    | '"' :: rest =>
      let (name, rest) ← scanString? rest
      match skipSpace rest with
      | ':' :: rest =>
        let (v, rest) ← scanValue? depth fuel (skipSpace rest)
        match skipSpace rest with
        | '\x7d' :: rest => some ([(String.ofList name, v)], rest)
        | ',' :: rest =>
          let (ms, rest) ← scanMembers? depth fuel (skipSpace rest)
          some ((String.ofList name, v) :: ms, rest)
        | _ => none
      | _ => none
    | _ => none

end

/-- The members of the one object that a text holds, in the order of the text and with repeated
names. -/
def parseObject? (s : String) : Option (List (String × Value)) :=
  let fuel := 2 * s.length + 2
  let (members, rest) := match skipSpace s.toList with
    | '\x7b' :: rest =>
      match skipSpace rest with
      | '\x7d' :: rest => (some [], rest)
      | rest =>
        match scanMembers? (depthLimit - 1) fuel rest with
        | some (members, rest) => (some members, rest)
        | none => (none, [])
    | _ => (none, [])
  if (skipSpace rest).isEmpty then members else none

end FlagBinding.Json
