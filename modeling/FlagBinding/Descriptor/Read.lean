import FlagBinding.Descriptor.Basic
import FlagBinding.Wire.Known

/-!
# Reading descriptors

A descriptor is itself a message. Entries that are not known are left out.

## Main definitions

* `File.read?`: the file of a byte string, unless it is malformed.
-/

namespace FlagBinding.Descriptor

open Wire Known

/-- The field of a message. -/
def Field.ofEntries? (es : List Entry) : Option Field := do
  let _ ← text? 7 es
  let _ ← text? 10 es
  return {
    name := ← text? 1 es
    number := ← int32? 3 es
    label := .ofNumber (← int32? 4 es)
    code := .ofNumber (← int32? 5 es)
    typeName := ← text? 6 es
    oneofIndex := ← last? Payload.int32? 9 es
    proto3Optional := ← bool? 17 es
    options := ← merged? 8 es }

/-- The field that extends a message, or not. -/
def Extension.ofEntries? (es : List Entry) : Option Extension := do
  return { field := ← Field.ofEntries? es, extendee := ← text? 2 es }

def messages? {α : Type} (read : List Entry → Option α) (number : Nat) (es : List Entry) :
    Option (List α) :=
  Known.all? (fun p => p.entries?.bind read) number es

def Oneof.ofEntries? (es : List Entry) : Option Oneof := do
  return { name := ← text? 1 es, options := ← merged? 2 es }

def checkRange? (es : List Entry) : Option Unit := do
  let _ ← int32? 1 es
  let _ ← int32? 2 es

def EnumerationValue.ofEntries? (es : List Entry) : Option EnumerationValue := do
  return { name := ← text? 1 es, number := ← int32? 2 es, options := ← merged? 3 es }

def Enumeration.ofEntries? (es : List Entry) : Option Enumeration := do
  let _ ← messages? checkRange? 4 es
  let _ ← Known.all? Payload.text? 5 es
  return {
    name := ← text? 1 es
    values := ← messages? EnumerationValue.ofEntries? 2 es
    options := ← merged? 3 es }

def rangeOptions? (es : List Entry) : Option Bytes := do
  checkRange? es
  merged? 3 es

/-- The message, if it nests at most `depth` deep. -/
def Message.ofEntries? : Nat → List Entry → Option Message
  | 0, _ => none
  | depth + 1, es => do
    let _ ← messages? checkRange? 9 es
    let _ ← Known.all? Payload.text? 10 es
    return {
      name := ← text? 1 es
      fields := ← messages? Field.ofEntries? 2 es
      nested := ← messages? (Message.ofEntries? depth) 3 es
      enumerations := ← messages? Enumeration.ofEntries? 4 es
      extensions := ← messages? Extension.ofEntries? 6 es
      oneofs := ← messages? Oneof.ofEntries? 8 es
      rangeOptions := ← messages? rangeOptions? 5 es
      options := ← merged? 7 es }

/-- The method of a service. -/
def Method.ofEntries? (es : List Entry) : Option Method := do
  let _ ← bool? 5 es
  let _ ← bool? 6 es
  return {
    name := ← text? 1 es
    input := ← text? 2 es
    output := ← text? 3 es
    options := ← merged? 4 es }

def Service.ofEntries? (es : List Entry) : Option Service := do
  return {
    name := ← text? 1 es
    methods := ← messages? Method.ofEntries? 2 es
    options := ← merged? 3 es }

/-- The file. -/
def File.ofEntries? (es : List Entry) : Option File := do
  let _ ← Known.all? Payload.int32s? 11 es
  return {
    name := ← text? 1 es
    package := ← text? 2 es
    dependencies := ← Known.all? Payload.text? 3 es
    publicDependencies := (← Known.all? Payload.int32s? 10 es).flatten
    messages := ← messages? (Message.ofEntries? (nestingLimit - 2)) 4 es
    enumerations := ← messages? Enumeration.ofEntries? 5 es
    services := ← messages? Service.ofEntries? 6 es
    extensions := ← messages? Extension.ofEntries? 7 es
    edition := ← last? Payload.text? 12 es
    options := ← merged? 8 es
    sourceInfo := ← merged? 9 es }

def File.read? (bytes : Bytes) : Option File :=
  (Entry.readAll? bytes).bind File.ofEntries?

end FlagBinding.Descriptor
