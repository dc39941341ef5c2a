import FlagBinding.Text.Case
import FlagBinding.Text.Quoted
import FlagBinding.Text.Trim

/-!
# Naming schemes

A naming scheme makes the full name of a flag from the name of its field: the segments of the scheme
come first, each followed by the delimiter, and the joined name may be renamed as a whole. Schemes
are values, so siblings can share one while a nested message extends it.

## Main definitions

* `NamingScheme`: segments, delimiter and renaming.
* `NamingScheme.under`, `NamingScheme.nested`: the scheme with more segments.
* `NamingScheme.build`: the full name of a flag.
-/

namespace FlagBinding

/-- How the names of flags are made. -/
structure NamingScheme where
  segments : List String := []
  delimiter : String := "."
  rename? : Option (String → String) := none

namespace NamingScheme

/-- A segment without dots at either end. -/
def trimDots (segment : String) : String :=
  String.ofList (Text.trim (· == '.') segment.toList)

/-- The segments that count: those that are more than dots. -/
def keptSegments (segments : List String) : List String :=
  (segments.map trimDots).filter (· ≠ "")

def under (scheme : NamingScheme) (segments : List String) : NamingScheme :=
  { scheme with segments := scheme.segments ++ keptSegments segments }

def withDelimiter (scheme : NamingScheme) (delimiter : String) : NamingScheme :=
  { scheme with delimiter }

def withRenaming (scheme : NamingScheme) (rename : String → String) : NamingScheme :=
  { scheme with rename? := some rename }

/-- The scheme for the fields of a nested message. -/
def nested (scheme : NamingScheme) (segment : String) : NamingScheme :=
  scheme.under [segment]

/-- The name of a flag before renaming. -/
def joined (scheme : NamingScheme) (suffix : String) : String :=
  String.join (scheme.segments.map (· ++ scheme.delimiter)) ++ suffix

/-- The name of a flag. -/
def build (scheme : NamingScheme) (suffix : String) : String :=
  match scheme.rename? with
  | some rename => rename (scheme.joined suffix)
  | none => scheme.joined suffix

/-- The scheme as text, for diagnosis. -/
def summary (scheme : NamingScheme) : String :=
  "NameBuilder \x7b prefix: [" ++ Text.join ", " (scheme.segments.map Text.Quoted.text) ++
    "], delimiter: " ++ Text.Quoted.text scheme.delimiter ++
    ", renamer: " ++ (if scheme.rename?.isSome then "true" else "false") ++ " \x7d"

end NamingScheme

/-- Ready-made ways to rename flags. -/
inductive Renaming
  /-- Upper case with underscores for dots, as for environment variables. -/
  | upperSnake
  | dotsToDashes
  | reversed
  /-- One name whatever the flag. -/
  | constant (name : String)
  deriving DecidableEq

namespace Renaming

/-- A text with every `old` replaced by `new`. -/
def replaceChar (old new : Char) (s : String) : String :=
  s.map fun c => if c = old then new else c

def apply : Renaming → String → String
  | upperSnake, name => replaceChar '.' '_' (Text.toUpper name)
  | dotsToDashes, name => replaceChar '.' '-' name
  | reversed, name => String.ofList name.toList.reverse
  | constant other, _ => other

end Renaming

end FlagBinding
