import FlagBinding.Dict
import FlagBinding.Number.FloatText
import FlagBinding.Text.Quoted

/-!
# JSON values and their text

A JSON number is an integer of 64 bits, with or without a sign, or else a double. The members of an
object are in increasing order of their names. The text of a value has no blanks.

## Main definitions

* `Json.Value`: a JSON value.
* `Json.quote`: a text as a JSON string.
* `Json.numberStyle`: how floating-point numbers are written.
* `Json.Value.render`: the text of a value.
-/

namespace FlagBinding.Json

open Number

/-- A JSON value. -/
inductive Value
  | null
  | bool (b : Bool)
  | integer (n : Int)
  | float (x : Floating .double)
  | string (s : String)
  | array (elements : List Value)
  | object (members : List (String × Value))

def hex4 (n : Nat) : List Char :=
  let ds := Text.hexDigits n
  List.replicate (4 - ds.length) '0' ++ ds

/-- How a character is written in a JSON string. -/
def escape (c : Char) : List Char :=
  if c == '"' then ['\\', '"']
  else if c == '\\' then ['\\', '\\']
  else if c == '\x08' then ['\\', 'b']
  else if c == '\x0c' then ['\\', 'f']
  else if c == '\n' then ['\\', 'n']
  else if c == '\r' then ['\\', 'r']
  else if c == '\t' then ['\\', 't']
  else if c.toNat < 32 then ['\\', 'u'] ++ hex4 c.toNat
  else [c]

def quoteChars (s : List Char) : List Char :=
  '"' :: s.flatMap escape ++ ['"']

def quote (s : String) : String :=
  String.ofList (quoteChars s.toList)

/-- A double is written with an exponent below `10 ^ -5` and from `10 ^ 16` on. -/
def doubleStyle : FloatStyle := ⟨fun point => -4 ≤ point && point ≤ 16, true, true, .even⟩

/-- A single is written with an exponent below `10 ^ -6` and from `10 ^ 13` on. -/
def singleStyle : FloatStyle := ⟨fun point => -5 ≤ point && point ≤ 13, true, true, .even⟩

/-- The text of a floating-point number; JSON has none for an infinity or what is not a number. -/
def renderFloat (style : FloatStyle) {format : FloatFormat} (x : Floating format) : String :=
  match x with
  | .finite .. => style.render x
  | _ => "null"

def enclose (start ending : String) (items : List String) : String :=
  start ++ String.intercalate "," items ++ ending

def member (name value : String) : String :=
  quote name ++ ":" ++ value

mutual

/-- The text of a value. -/
def Value.render : Value → String
  | .null => "null"
  | .bool b => if b then "true" else "false"
  | .integer n => decimal n
  | .float x => renderFloat doubleStyle x
  | .string s => quote s
  | .array elements => enclose "[" "]" (renderAll elements)
  | .object members => enclose "\x7b" "\x7d" (renderMembers members)

def Value.renderAll : List Value → List String
  | [] => []
  | v :: rest => v.render :: renderAll rest

def Value.renderMembers : List (String × Value) → List String
  | [] => []
  | (name, v) :: rest => member name v.render :: renderMembers rest

end

end FlagBinding.Json
