import FlagBinding.Element.Codec
import FlagBinding.Text.Trim

/-!
# Codec of enumerations

A value of an enumeration is given by its name or by its number; only declared numbers are taken. A
number without a name, which a newer schema may have stored, is shown as it is.

## Main definitions

* `Enumeration`: a name and its values.
* `Codec.enumeration`: the codec of the numbers of an enumeration.
-/

namespace FlagBinding

/-- An enumeration: its name, and the names and numbers of its values in order. -/
structure Enumeration where
  name : String
  values : List (String × Int32)

namespace Enumeration

def names (e : Enumeration) : List String :=
  e.values.map (·.1)

/-- The number of the first value with a name. -/
def number? (e : Enumeration) (name : String) : Option Int32 :=
  (e.values.find? (·.1 == name)).map (·.2)

/-- The name of the first value with a number. -/
def name? (e : Enumeration) (number : Int32) : Option String :=
  (e.values.find? (·.2 == number)).map (·.1)

def declared? (e : Enumeration) (input : String) : Option Int32 :=
  match Number.readInt (2 ^ 31) (2 ^ 31 - 1) input with
  | .ok n => (e.values.find? (·.2 == Int32.ofInt n)).map (·.2)
  | .error _ => none

end Enumeration

/-- The codec of an enumeration. Blanks around a name or a number do not count. -/
def Codec.enumeration (e : Enumeration) : Codec Int32 where
  kind := e.name
  decode input :=
    let name := Text.trimBlanks input
    match e.number? name <|> e.declared? name with
    | some n => .ok n
    | none => .error (.unknownValue e.name input e.names)
  encode n := (e.name? n).getD (Number.decimal n.toInt)

end FlagBinding
