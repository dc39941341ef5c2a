import FlagBinding.Options.Shape

/-!
# Standard options

The options that every file may use without an import.

## Main definitions

* `Target`: what options belong to, with the message type of its options.
* `standard`: the message types of all options.
-/

namespace FlagBinding.Options

/-- What options belong to. -/
inductive Target
  | file
  | message
  | field
  | oneof
  | enumeration
  | enumerationValue
  | service
  | method
  | extensionRange
  deriving DecidableEq

/-- The message type of the options of a target. -/
def Target.optionsType : Target → String
  | file => "google.protobuf.FileOptions"
  | message => "google.protobuf.MessageOptions"
  | field => "google.protobuf.FieldOptions"
  | oneof => "google.protobuf.OneofOptions"
  | enumeration => "google.protobuf.EnumOptions"
  | enumerationValue => "google.protobuf.EnumValueOptions"
  | service => "google.protobuf.ServiceOptions"
  | method => "google.protobuf.MethodOptions"
  | extensionRange => "google.protobuf.ExtensionRangeOptions"

/-- The message type that says where declarations stand in a file. -/
def sourceInfoType : String := "google.protobuf.SourceCodeInfo"

namespace FieldShape

/-- A field with one value, which may be zero. -/
def single (number : Nat) (name : String) (kind : Kind) : FieldShape :=
  ⟨⟨name, number, none⟩, kind, false, true⟩

def many (number : Nat) (name : String) (kind : Kind) : FieldShape :=
  ⟨⟨name, number, none⟩, kind, true, false⟩

def bool (number : Nat) (name : String) : FieldShape := single number name (.scalar .bool)

def text (number : Nat) (name : String) : FieldShape := single number name (.scalar .string)

def choice (number : Nat) (name : String) : FieldShape := single number name .enumeration

/-- The options that have not been looked up yet, which any target may have. -/
def uninterpreted : FieldShape :=
  many 999 "uninterpreted_option" (.record "google.protobuf.UninterpretedOption")

end FieldShape

open FieldShape in
/-- The message types of all options, and those inside them. -/
def standard : Catalogue
  | "google.protobuf.FileOptions" =>
    [text 1 "java_package", text 8 "java_outer_classname", choice 9 "optimize_for",
      bool 10 "java_multiple_files", text 11 "go_package", bool 16 "cc_generic_services",
      bool 17 "java_generic_services", bool 18 "py_generic_services",
      bool 20 "java_generate_equals_and_hash", bool 23 "deprecated",
      bool 27 "java_string_check_utf8", bool 31 "cc_enable_arenas", text 36 "objc_class_prefix",
      text 37 "csharp_namespace", text 39 "swift_prefix", text 40 "php_class_prefix",
      text 41 "php_namespace", bool 42 "php_generic_services", text 44 "php_metadata_namespace",
      text 45 "ruby_package", uninterpreted]
  | "google.protobuf.MessageOptions" =>
    [bool 1 "message_set_wire_format", bool 2 "no_standard_descriptor_accessor",
      bool 3 "deprecated", bool 7 "map_entry", uninterpreted]
  | "google.protobuf.FieldOptions" =>
    [choice 1 "ctype", bool 2 "packed", bool 3 "deprecated", bool 5 "lazy", choice 6 "jstype",
      bool 10 "weak", uninterpreted]
  | "google.protobuf.EnumOptions" => [bool 2 "allow_alias", bool 3 "deprecated", uninterpreted]
  | "google.protobuf.EnumValueOptions" => [bool 1 "deprecated", uninterpreted]
  | "google.protobuf.ServiceOptions" => [bool 33 "deprecated", uninterpreted]
  | "google.protobuf.MethodOptions" =>
    [bool 33 "deprecated", choice 34 "idempotency_level", uninterpreted]
  | "google.protobuf.OneofOptions" => [uninterpreted]
  | "google.protobuf.ExtensionRangeOptions" => [uninterpreted]
  | "google.protobuf.UninterpretedOption" =>
    [many 2 "name" (.record "google.protobuf.UninterpretedOption.NamePart"),
      text 3 "identifier_value", single 4 "positive_int_value" (.scalar .uint64),
      single 5 "negative_int_value" (.scalar .int64), single 6 "double_value" (.scalar .double),
      single 7 "string_value" .bytes, text 8 "aggregate_value"]
  | "google.protobuf.UninterpretedOption.NamePart" => [text 1 "name_part", bool 2 "is_extension"]
  | "google.protobuf.SourceCodeInfo" =>
    [many 1 "location" (.record "google.protobuf.SourceCodeInfo.Location")]
  | "google.protobuf.SourceCodeInfo.Location" =>
    [many 1 "path" (.scalar .int32), many 2 "span" (.scalar .int32), text 3 "leading_comments",
      text 4 "trailing_comments", many 6 "leading_detached_comments" (.scalar .string)]
  | _ => []

/-- Whether the bytes of options can be read with the standard options alone. -/
def isStandard (target : Target) (bytes : Wire.Bytes) : Bool :=
  (standard.decode? target.optionsType bytes).isSome

end FlagBinding.Options
