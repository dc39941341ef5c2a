import FlagBinding.Schema.Options
import FlagBinding.Text.Quoted

/-!
# Literals in emitted code

Numbers carry the name of their type. What is not a number and the infinities are named constants.
-/

namespace FlagBinding.Target

open Number Schema

def floatLiteral (typeName : String) {format : FloatFormat} : Floating format → String
  | .nan => "::core::" ++ typeName ++ "::NAN"
  | .infinite negative =>
    (if negative then "-" else "") ++ "::core::" ++ typeName ++ "::INFINITY"
  | x => FloatStyle.literal.render x ++ typeName

def bareLiteral (value : DefaultValue) : String :=
  match value with
  | .single x => floatLiteral value.carrier.typeName x
  | .double x => floatLiteral value.carrier.typeName x
  | .bool _ => value.bare
  | _ => value.bare ++ value.carrier.typeName

def defaultLiteral? (kind : ScalarKind) (value : DefaultValue) : Option String :=
  if kind.carrier = value.carrier then some (bareLiteral value) else none

def textLiteral (s : String) : String :=
  Text.Quoted.text s

end FlagBinding.Target
