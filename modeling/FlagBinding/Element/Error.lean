import FlagBinding.Number.FloatText
import FlagBinding.Text.Base64
import FlagBinding.Text.Hex
import FlagBinding.Text.Utf8
import FlagBinding.Time.Duration

/-!
# Why an argument gives no value

## Main definitions

* `ValueError`: the causes; `ValueError.message?` gives their wording.
-/

namespace FlagBinding

open Number Text

/-- Why a text is no element of a kind. -/
inductive ElementFault
  | integer (fault : IntFault)
  | float (fault : FloatFault)
  /-- A decimal beyond the largest number. -/
  | beyondRange
  | notBool
  | base64 (fault : Base64.Fault)
  | hex (fault : Hex.Fault)
  | duration (fault : Time.Duration.Fault)
  deriving DecidableEq

/-- The wording of a fault. -/
def ElementFault.message : ElementFault → String
  | .integer f => f.message
  | .float f => f.message
  | .beyondRange => "value out of range"
  | .notBool => "expected true or false"
  | .base64 f => f.message
  | .hex f => f.message
  | .duration f => f.message

/-- Why an argument gives no value. -/
inductive ValueError
  /-- The text of an element of some kind is malformed. -/
  | invalid (kind input : String) (fault : ElementFault)
  /-- A text is neither the name nor the number of a value of an enumeration. -/
  | unknownValue (enumeration input : String) (names : List String)
  /-- A text fits none of the layouts of a timestamp. -/
  | noLayout (input : String) (layouts : List String)
  /-- An entry of a map lacks the sign between key and value. -/
  | noEquals (entry : String)
  /-- The value of an entry of a map is no element. -/
  | entryValue (entry : String) (cause : ValueError)
  /-- The fields of a list are no text. -/
  | notText (fault : Utf8.Fault)
  /-- A text is no JSON object with values of the right type. -/
  | notJson (input : String)
  deriving DecidableEq

namespace ValueError

def entryMessage (entry reason : String) : String :=
  "invalid map entry " ++ Quoted.text entry ++ ": " ++ reason

/-- The wording of an error; for malformed JSON there is none. -/
def message? : ValueError → Option String
  | .invalid kind input fault =>
    some ("invalid " ++ kind ++ " value " ++ Quoted.text input ++ ": " ++ fault.message)
  | .unknownValue enumeration input names =>
    some ("invalid value " ++ Quoted.text input ++ " for enum " ++ enumeration ++
      ": expected one of " ++ String.intercalate ", " names)
  | .noLayout input layouts =>
    some ("cannot parse " ++ Quoted.text input ++ " as a timestamp: expected one of " ++
      String.intercalate ", " layouts)
  | .noEquals entry => some (entryMessage entry "expected key=value")
  | .entryValue entry cause => cause.message?.map (entryMessage entry)
  | .notText fault =>
    some ("malformed list " ++ Quoted.text "" ++ ": " ++ fault.message)
  | .notJson _ => none

end ValueError

end FlagBinding
