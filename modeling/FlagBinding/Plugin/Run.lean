import FlagBinding.Compilation
import FlagBinding.Plugin.Request

/-!
# The generator as a plugin

The compiler of message definitions hands a request to the generator and takes a response, both as
bytes.

## Main definitions

* `generate`: the generated files for a request.
* `encodeResponse`: the bytes of a response.
* `Action`, `Action.run`: what the program is asked for, and what it prints.
-/

namespace FlagBinding

open Text Wire

/-- The generated files for a request, which is given as bytes. -/
def generate (request : Bytes) : Journaled (List Output) := do
  let request ← .lift (Request.read request)
  let settings ← .lift ((Settings.ofParameter request.parameter).mapError .parameter)
  .note (.schemaRead request.schema)
  compile settings request.schema

/-- The features of the generator: it knows fields that tell a missing value from a zero. -/
def supportedFeatures : Nat := 1

def Output.encode (o : Output) : Bytes :=
  writeDelimited 1 (Utf8.encode o.name) ++ writeDelimited 15 (Utf8.encode o.content)

def encodeResponse (files : List Output) : Bytes :=
  writeVarint 2 supportedFeatures ++ files.flatMap fun f => writeDelimited 15 f.encode

def CompileError.report (e : CompileError) : String :=
  e.message?.getD <|
    match e with
    | .request => "Failed to decode plugin request"
    | .descriptors => "Invalid descriptor set"
    | .malformedCode file => "Generated code for " ++ file ++ " does not parse"
    | _ => ""

/-- What a program prints, and the code with which it ends. -/
structure Ending where
  code : Nat
  output : Bytes
  errors : String

def version : String := "0.1.0"

/-- What the program tells about itself and its options. -/
def helpText : String :=
  "protoc plugin that generates command-line flag bindings for protobuf messages\n\nUsage: " ++
    programName ++ "\n\nOptions:\n  -h, --help     Print help\n  -V, --version  Print version\n"

/-- What the arguments of the program ask for. -/
inductive Action
  /-- To answer the request on the input. -/
  | respond
  | printHelp
  | printVersion
  /-- Nothing that the program does. -/
  | refuse (argument : String)
  deriving DecidableEq

namespace Action

/-- The action for a list of arguments, of which the first decides. -/
def ofArguments : List String → Action
  | [] => respond
  | ["--"] => respond
  | "--" :: argument :: _ => refuse argument
  | argument :: _ =>
    if argument = "--help" ∨ "-h".toList <+: argument.toList then printHelp
    else if argument = "--version" ∨ "-V".toList <+: argument.toList then printVersion
    else refuse argument

/-- How the program ends for a request. -/
def endingFor (request : Bytes) : Ending :=
  match (generate request).result with
  | .ok files => ⟨0, encodeResponse files, ""⟩
  | .error e => ⟨1, [], programName ++ ": " ++ e.report ++ "\n"⟩

/-- How the program ends with an action, given its input. -/
def run (input : Bytes) : Action → Ending
  | respond => endingFor input
  | printHelp => ⟨0, Utf8.encode helpText, ""⟩
  | printVersion => ⟨0, Utf8.encode (programName ++ " " ++ version ++ "\n"), ""⟩
  | refuse argument =>
    ⟨2, [], "error: unexpected argument '" ++ argument ++ "' found\n\nUsage: " ++ programName ++
      "\n\nFor more information, try '--help'.\n"⟩

end Action

end FlagBinding
