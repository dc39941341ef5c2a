import FlagBinding.Text.Table.Printable

/-!
# Quoted text

A text or a character between quotes, with the escapes of a string or character literal: a named
escape for the quote, the backslash and the common controls, and the code point in braces for every
other character that has no glyph of its own or extends the one before it.

## Main definitions

* `Quoted.text`: a text between double quotes.
* `Quoted.character`: a character between single quotes.
-/

namespace FlagBinding.Text

/-- Whether a character has a glyph of its own. -/
def isPrintable (c : Char) : Bool :=
  !(inRuns unprintableRuns c) || c == ' '

/-- Whether a character extends the grapheme before it. -/
def extendsGrapheme (c : Char) : Bool :=
  768 ≤ c.toNat && inRuns graphemeExtendRuns c

/-- The digits of `n` in lower-case hexadecimal. -/
def hexDigits (n : Nat) : List Char :=
  Nat.toDigits 16 n

namespace Quoted

/-- The code point of `c` as an escape. -/
def byNumber (c : Char) : List Char :=
  ['\\', 'u', '\x7b'] ++ hexDigits c.toNat ++ ['\x7d']

/-- How `c` is written between two `quote`s. -/
def escape (quote c : Char) : List Char :=
  if c == '\x00' then ['\\', '0']
  else if c == '\t' then ['\\', 't']
  else if c == '\r' then ['\\', 'r']
  else if c == '\n' then ['\\', 'n']
  else if c == '\\' || c == quote then ['\\', c]
  else if ' ' ≤ c && c ≤ '~' then [c]
  else if extendsGrapheme c || !isPrintable c then byNumber c
  else [c]

def encode (s : List Char) : List Char :=
  '"' :: s.flatMap (escape '"') ++ ['"']

def text (s : String) : String :=
  String.ofList (encode s.toList)

def character (c : Char) : String :=
  String.ofList ('\'' :: escape '\'' c ++ ['\''])

end Quoted

end FlagBinding.Text
