import FlagBinding.Text.Trim
import FlagBinding.Text.Utf8

/-!
# Lists in one line

A list of fields is one comma-separated record. The reader is lenient: a quote inside a bare field
stands for itself, text may follow a closing quote, and a quoted field without an end runs to the
end of the input. The writer quotes a field exactly if it holds a comma, a quote or a line break,
and a record of one empty field, which would otherwise read as no field at all.

Reading and writing work over any alphabet with the four marks of the format, so that records of
bytes and records of characters share one definition.

## Main definitions

* `Csv.readRecord`, `Csv.writeRecord`: the format over an alphabet.
* `Csv.read`, `Csv.readUnquoted`, `Csv.write`, `Csv.writeBytes`: the format over texts.
* `Csv.stripBrackets`: the text inside one pair of square brackets.
-/

namespace FlagBinding.Text.Csv

/-- The four symbols of an alphabet that have a meaning in a record. -/
structure Marks (α : Type) where
  comma : α
  quote : α
  cr : α
  lf : α

def charMarks : Marks Char :=
  ⟨',', '"', '\r', '\n'⟩

def byteMarks : Marks UInt8 :=
  ⟨44, 34, 13, 10⟩

/-- Where the reader stands inside a record. -/
inductive Position
  | fieldStart
  | bare
  | quoted
  | afterQuote
  deriving DecidableEq, Repr

section Alphabet

variable {α : Type} [DecidableEq α]

def Marks.isBreak (m : Marks α) (c : α) : Bool :=
  c = m.cr || c = m.lf

/-- The record with `c` put before its first field. -/
def prepend (c : α) : List (List α) → List (List α)
  | [] => [[c]]
  | field :: fields => (c :: field) :: fields

/-- The fields from a position inside a record to the record's end. -/
def fieldsFrom (m : Marks α) : Position → List α → List (List α)
  | _, [] => [[]]
  | .quoted, c :: rest =>
    if c = m.quote then fieldsFrom m .afterQuote rest else prepend c (fieldsFrom m .quoted rest)
  | .fieldStart, c :: rest =>
    if c = m.quote then fieldsFrom m .quoted rest
    else if c = m.comma then [] :: fieldsFrom m .fieldStart rest
    else if m.isBreak c then [[]]
    else prepend c (fieldsFrom m .bare rest)
  | .bare, c :: rest =>
    if c = m.comma then [] :: fieldsFrom m .fieldStart rest
    else if m.isBreak c then [[]]
    else prepend c (fieldsFrom m .bare rest)
  | .afterQuote, c :: rest =>
    if c = m.quote then prepend c (fieldsFrom m .quoted rest)
    else if c = m.comma then [] :: fieldsFrom m .fieldStart rest
    else if m.isBreak c then [[]]
    else prepend c (fieldsFrom m .bare rest)

/-- The fields of the first record that is not an empty line; none if there is no such record. -/
def readRecord (m : Marks α) (input : List α) : List (List α) :=
  match trimStart m.isBreak input with
  | [] => []
  | c :: rest => fieldsFrom m .fieldStart (c :: rest)

/-- Whether a field has to stand between quotes. -/
def Marks.needsQuotes (m : Marks α) (field : List α) : Bool :=
  field.any fun c => c = m.comma || c = m.quote || m.isBreak c

/-- A field with each quote in it doubled. -/
def doubleQuotes (m : Marks α) (field : List α) : List α :=
  field.flatMap fun c => if c = m.quote then [m.quote, m.quote] else [c]

def writeField (m : Marks α) (field : List α) : List α :=
  if m.needsQuotes field then m.quote :: doubleQuotes m field ++ [m.quote] else field

/-- The written form of a list of fields, ended by a line feed. -/
def writeRecord (m : Marks α) : List (List α) → List α
  | [] => []
  | [[]] => [m.quote, m.quote, m.lf]
  | fields => (fields.map (writeField m)).intersperse [m.comma] |>.flatten |> (· ++ [m.lf])

def writeLine (m : Marks α) (fields : List (List α)) : List α :=
  trimEnd m.isBreak (writeRecord m fields)

end Alphabet

/-- The byte-order mark, which is no part of the text that it starts. -/
def byteOrderMark : Char :=
  '\ufeff'

/-- The input without a byte-order mark at its start. -/
def dropByteOrderMark (input : List Char) : List Char :=
  match input with
  | c :: rest => if c = byteOrderMark then rest else input
  | [] => []

/-- The fields of a text. -/
def read (input : String) : List String :=
  (readRecord charMarks (dropByteOrderMark input.toList)).map String.ofList

/-- A quote that a shell user may have left around an item. -/
def isShellQuote (c : Char) : Bool :=
  c == '\x60' || c == '\''

/-- The fields of a text from which every back quote and single quote has been removed. -/
def readUnquoted (input : String) : List String :=
  read (String.ofList (input.toList.filter fun c => !isShellQuote c))

def write (fields : List String) : String :=
  String.ofList (writeLine charMarks (fields.map String.toList))

def writeBytes (fields : List (List UInt8)) : Except Utf8.Fault String := do
  let text ← Utf8.decode (writeRecord byteMarks fields)
  return String.ofList (trimEnd charMarks.isBreak text.toList)

/-- The text inside one surrounding pair of square brackets, or the text itself. -/
def stripBrackets (input : String) : String :=
  match input.toList with
  | '[' :: rest =>
    if rest.getLast? = some ']' then String.ofList rest.dropLast else input
  | _ => input

end FlagBinding.Text.Csv
