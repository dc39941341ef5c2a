import FlagBinding.Json.Tree
import FlagBinding.Schema.Basic

/-!
# Written schemas

A schema as a JSON document: records with all their members, variants by their names.
-/

namespace FlagBinding.Schema

open Json (Tree)

def ScalarKind.document (kind : ScalarKind) : Tree :=
  .string kind.title

/-- A declared default. -/
def DefaultValue.document (d : DefaultValue) : Tree :=
  .tagged d.title <| match d with
    | single x => .leaf (Json.renderFloat Json.singleStyle x)
    | double x => .leaf (Json.renderFloat Json.doubleStyle x)
    | int32 n => .integer n.toInt
    | int64 n => .integer n.toInt
    | uint32 n => .integer n.toNat
    | uint64 n => .integer n.toNat
    | bool b => .bool b

def BytesEncoding.document : BytesEncoding → Tree
  | unspecified => .string "Unspecified"
  | base64 => .string "Base64"
  | hex => .string "Hex"
  | unknown n => .tagged "Unknown" (.integer n.toInt)

def MapFormat.document : MapFormat → Tree
  | unspecified => .string "Unspecified"
  | json => .string "Json"
  | textToText => .string "StringToString"
  | textToInteger => .string "StringToInt"
  | unknown n => .tagged "Unknown" (.integer n.toInt)

def FlagCommon.document (c : FlagCommon) : Tree :=
  .object [("name", .optional .string c.name), ("short", .optional .string c.short),
    ("usage", .string c.usage), ("hidden", .bool c.hidden), ("deprecated", .bool c.deprecated),
    ("deprecated_usage", .string c.deprecatedUsage), ("disabled", .bool c.disabled)]

def ElementKind.document : ElementKind → Tree
  | scalar kind => .tagged "Scalar" kind.document
  | bytes encoding => .tagged "Bytes" (.tagged "encoding" encoding.document)
  | enumeration => .string "Enum"
  | duration => .string "Duration"
  | timestamp formats => .tagged "Timestamp" (.tagged "formats" (.strings formats))
  | unknown name => .tagged "Unknown" (.string name)

/-- A kind of flag. -/
def FlagKind.document : FlagKind → Tree
  | scalar kind default => .tagged "Scalar" (.object [("kind", kind.document),
      ("default", .optional DefaultValue.document default)])
  | bytes encoding => .tagged "Bytes" (.tagged "encoding" encoding.document)
  | enumeration default =>
    .tagged "Enum" (.tagged "default" (.optional (fun n => .integer n.toInt) default))
  | duration => .string "Duration"
  | timestamp formats => .tagged "Timestamp" (.tagged "formats" (.strings formats))
  | map format => .tagged "Map" (.tagged "format" format.document)
  | message nested => .tagged "Message" (.tagged "nested" (.bool nested))
  | repeated element => .tagged "Repeated" element.document
  | unknown name => .tagged "Unknown" (.string name)

def FieldFlags.document (flags : FieldFlags) : Tree :=
  .object [("common", flags.common.document), ("kind", flags.kind.document)]

def WellKnown.document : WellKnown → Tree
  | wrapper kind => .tagged "Wrapper" kind.document
  | bytesValue => .string "BytesValue"
  | duration => .string "Duration"
  | timestamp => .string "Timestamp"
  | empty => .string "Empty"
  | other => .string "Other"

def EnumValue.document (v : EnumValue) : Tree :=
  .object [("name", .string v.name), ("number", .integer v.number.toInt)]

def FieldType.document : FieldType → Tree
  | scalar kind => .tagged "Scalar" kind.document
  | bytes => .string "Bytes"
  | enumeration e => .tagged "Enum" (.object [("name", .string e.name),
      ("full_name", .string e.fullName), ("values", .array (e.values.map EnumValue.document))])
  | message m => .tagged "Message" (.object [("full_name", .string m.fullName),
      ("well_known", .optional WellKnown.document m.wellKnown)])

def MapEntry.document (e : MapEntry) : Tree :=
  .object [("key", e.key.document), ("value", e.value.document)]

def Field.document (f : Field) : Tree :=
  .object [("name", .string f.name), ("number", .integer f.number.toInt),
    ("type_", f.type.document), ("repeated", .bool f.repeated), ("optional", .bool f.optional),
    ("map", .optional MapEntry.document f.map), ("oneof", .optional .string f.oneof),
    ("flags", .optional FieldFlags.document f.flags)]

def Message.document (m : Message) : Tree :=
  .object [("name", .string m.name), ("full_name", .string m.fullName), ("path", .strings m.path),
    ("disabled", .bool m.disabled), ("fields", .array (m.fields.map Field.document))]

def File.document (f : File) : Tree :=
  .object [("name", .string f.name), ("package", .string f.package), ("generate", .bool f.generate),
    ("messages", .array (f.messages.map Message.document))]

def document (s : Schema) : Tree :=
  .object [("files", .array (s.files.map File.document))]

end FlagBinding.Schema
