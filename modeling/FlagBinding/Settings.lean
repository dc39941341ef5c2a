import FlagBinding.Json.Value
import FlagBinding.Text.Trim

/-!
# Settings of the generator

The settings come from one parameter: a comma-separated list of `key=value` pieces. Blank pieces do
not count, and of several pieces with one key the last counts.

## Main definitions

* `Settings`: the settings and their defaults.
* `Settings.ofParameter`: the settings that a parameter gives.
* `Settings.outputName`: the name of the file that is generated for a file.
-/

namespace FlagBinding

open Text

/-- The settings of the generator. -/
structure Settings where
  /-- The path of the library that emitted code refers to. -/
  runtime : String := "::protoflags"
  /-- The ending of the names of generated files. -/
  suffix : String := ".flags.rs"
  /-- Whether emitted code is laid out. -/
  format : Bool := true
  deriving DecidableEq

/-- Why a parameter is refused. -/
inductive ParameterFault
  | notKeyValue (piece : String)
  | emptyRuntime
  | emptySuffix
  | notBool (value : String)
  | unknownKey (key : String)
  deriving DecidableEq

def ParameterFault.message : ParameterFault → String
  | notKeyValue piece => Json.quote piece ++ ": expected key=value"
  | emptyRuntime => "runtime: path must not be empty"
  | emptySuffix => "suffix: must not be empty"
  | notBool value => "format: expected true or false, got " ++ Json.quote value
  | unknownKey key => "unknown key " ++ Json.quote key

namespace Settings

/-- A reversed path without the separators at its front. -/
def dropSeparators : List Char → List Char
  | ':' :: ':' :: rest => dropSeparators rest
  | path => path

/-- The settings with another path of the library, which loses the separators at its end. -/
def withRuntime (s : Settings) (path : String) : Settings :=
  { s with runtime := String.ofList (dropSeparators path.toList.reverse).reverse }

def withSuffix (s : Settings) (suffix : String) : Settings :=
  { s with suffix }

def withoutFormat (s : Settings) : Settings :=
  { s with format := false }

/-- The settings with the value of a key. -/
def assign (s : Settings) (key value : String) : Except ParameterFault Settings :=
  match key with
  | "runtime" => if value.isEmpty then .error .emptyRuntime else .ok (s.withRuntime value)
  | "suffix" => if value.isEmpty then .error .emptySuffix else .ok (s.withSuffix value)
  | "format" =>
    match value with
    | "true" => .ok { s with format := true }
    | "false" => .ok { s with format := false }
    | other => .error (.notBool other)
  | other => .error (.unknownKey other)

def applyPiece (s : Settings) (piece : String) : Except ParameterFault Settings :=
  if piece.isEmpty then .ok s
  else match cutFirst? '=' piece with
    | none => .error (.notKeyValue piece)
    | some (key, value) => s.assign (trimBlanks key) (trimBlanks value)

def ofParameter (parameter : Option String) : Except ParameterFault Settings :=
  ((pieces ',' (parameter.getD "")).map trimBlanks).foldlM applyPiece {}

def outputName (s : Settings) (file : String) : String :=
  withoutEnd ".proto" file ++ s.suffix

end Settings

end FlagBinding
