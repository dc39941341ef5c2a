import FlagBinding.Text.Case
import FlagBinding.Text.Trim

/-!
# Names in emitted code

Fields are in snake case, and messages are types in upper camel case inside the modules of the
messages around them. A name that is a keyword is marked as raw, or gets an underscore where a raw
name is not allowed.

## Main definitions

* `Target.fieldName`: the name of the field of a structure.
* `Target.typePath`: the path of the type of a message.
-/

namespace FlagBinding.Target

/-- Keywords that cannot be names even as raw ones. -/
def strictKeywords : List String := ["self", "super", "crate", "Self", "extern"]

/-- The other keywords. -/
def keywords : List String :=
  ["abstract", "as", "async", "await", "become", "box", "break", "const", "continue", "do", "dyn",
    "else", "enum", "false", "final", "fn", "for", "gen", "if", "impl", "in", "let", "loop",
    "macro", "match", "mod", "move", "mut", "override", "priv", "pub", "ref", "return", "static",
    "struct", "trait", "true", "try", "type", "typeof", "unsafe", "unsized", "use", "virtual",
    "where", "while", "yield"]

/-- What marks a name as raw. -/
def rawMark : String := "r#"

/-- A name that is no keyword. -/
def escapeName (name : String) : String :=
  if strictKeywords.contains name then name ++ "_"
  else if keywords.contains name then rawMark ++ name
  else name

/-- The name of the structure field for a field of a message. -/
def fieldName (name : String) : String :=
  escapeName (Text.snakeCase name)

/-- The names on the way to the type of a message, given the names of the messages around it and its
own. -/
def typeNames : List String → List String
  | [] => []
  | [name] => [escapeName (Text.upperCamelCase name)]
  | parent :: rest => escapeName (Text.snakeCase parent) :: typeNames rest

def typePath (path : List String) : String :=
  Text.join "::" (typeNames path)

end FlagBinding.Target
