import FlagBinding.Emit.Plan
import FlagBinding.Target.Code
import FlagBinding.Target.Literal
import FlagBinding.Target.Name

/-!
# The code of a plan

A plan becomes two implementations for the type of its message: one registers the flags, the other
assigns the defaults.

## Main definitions

* `Plan.bindImpl`, `Plan.defaultsImpl`: the two implementations.
-/

namespace FlagBinding.Emit

open Schema Target

def inRuntime (runtime name : String) : Expr :=
  .path (runtime ++ "::" ++ name)

def text (s : String) : Expr :=
  .literal (textLiteral s)

def selfField (field : String) : Expr :=
  .field (.path "self") (fieldName field)

def present (e : Expr) : Expr :=
  .call (.path "::core::option::Option::Some") [e]

def enumEntry (v : EnumValue) : Expr :=
  .tuple [text v.name, .literal (Number.decimal v.number.toInt ++ "i32")]

/-- The expression of a codec. -/
def CodecTerm.code (runtime : String) : CodecTerm → Expr
  | .scalar carrier => inRuntime runtime ("codec::" ++ carrier.codecName)
  | .base64 => inRuntime runtime "codec::Base64"
  | .hex => inRuntime runtime "codec::Hex"
  | .enumeration type =>
    .call (inRuntime runtime "codec::Enum::new")
      [text type.name, .borrow false (.array (type.values.map enumEntry))]
  | .duration => inRuntime runtime "codec::Duration"
  | .timestamp formats =>
    .call (inRuntime runtime "codec::Timestamp::new") [.borrow false (.array (formats.map text))]

/-- The expression of a cell around a field. -/
def CellTerm.code (runtime : String) (field : String) (cell : CellTerm) : Expr :=
  let target := Expr.borrow true (selfField field)
  let around (name : String) (codec : CodecTerm) : Expr :=
    .call (inRuntime runtime (name ++ "::new")) [target, codec.code runtime]
  match cell with
  | .plain codec => around "Plain" codec
  | .optional codec => around "Optional" codec
  | .repeated codec => around "Repeated" codec
  | .stringMap codec => around "StringMap" codec
  | .jsonMap => .call (inRuntime runtime "JsonMap::new") [target]

def nameExpr : Expr := .borrow false (.path "name")

/-- A call on the set of flags, whose failure ends the binding. -/
def onFlags (method : String) (args : List Expr) : Stmt :=
  .run (.propagate (.method (.path "fs") method args))

def shortExpr : Option Char → Expr
  | some c => present (.literal (Text.Quoted.character c))
  | none => .path "::core::option::Option::None"

/-- The statements that register a flag. -/
def Registration.code (runtime : String) (r : Registration) : Stmt :=
  .block <|
    [.define "name" (.method (.path "names") "build" [text r.flag]),
      onFlags "var" [r.cell.code runtime r.field, nameExpr, shortExpr r.short, text r.usage]] ++
    (if r.hidden then [onFlags "mark_hidden" [nameExpr]] else []) ++
    (match r.deprecation with
      | some hint => [onFlags "mark_deprecated" [nameExpr, text hint]]
      | none => [])

/-- The message in a field, which is created if it is missing. -/
def nestedMessage (field : String) : Expr :=
  .method (selfField field) "get_or_insert_with" [.path "::core::default::Default::default"]

def BindStep.code (runtime : String) : BindStep → Stmt
  | .register r => r.code runtime
  | .nest field segment _ =>
    .run (.propagate (.call (inRuntime runtime "Bind::bind")
      [nestedMessage field, .path "fs",
        .borrow false (.method (.path "names") "nested" [text segment])]))

def Omission.note : Omission → String
  | .disabled field => "\x60" ++ field ++ "\x60 (disabled)"
  | .notNested field => "\x60" ++ field ++ "\x60 (not nested)"

def Plan.docs (p : Plan) : List String :=
  [" Registers the flags of \x60" ++ p.fullName ++ "\x60."] ++
    if p.omissions.isEmpty then []
    else ["", " Fields without a flag: " ++ Text.join ", " (p.omissions.map Omission.note) ++ "."]

/-- The implementation that registers the flags. -/
def Plan.bindImpl (runtime : String) (p : Plan) : Impl where
  trait := runtime ++ "::Bind"
  type := typePath p.path
  method :=
    { docs := p.docs
      attributes := ["allow(unused_variables)"]
      name := "bind"
      lifetimes := ["'a"]
      receiver := "&'a mut self"
      params := [("fs", .borrow true (.path (runtime ++ "::FlagSet") [.lifetime "'a"])),
        ("names", .borrow false (.path (runtime ++ "::NameBuilder") []))]
      result := some (.path "::core::result::Result" [.unit, .path (runtime ++ "::FlagError") []])
      body := p.steps.map (BindStep.code runtime) ++
        [.answer (.call (.path "::core::result::Result::Ok") [.tuple []])] }

def DefaultStep.code (runtime : String) : DefaultStep → Stmt
  | .assign field mayBeMissing value =>
    let literal := Expr.literal (bareLiteral value)
    .assign (selfField field) (if mayBeMissing then present literal else literal)
  | .nest field _ => .run
      (.call (inRuntime runtime "SetDefaults::set_defaults") [nestedMessage field])

def Plan.defaultsImpl (runtime : String) (p : Plan) : Impl where
  trait := runtime ++ "::SetDefaults"
  type := typePath p.path
  method :=
    { name := "set_defaults"
      receiver := "&mut self"
      body := p.defaults.map (DefaultStep.code runtime) }

end FlagBinding.Emit
