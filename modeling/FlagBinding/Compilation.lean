import FlagBinding.Check.Nesting
import FlagBinding.Emit.Code
import FlagBinding.Target.Layout
import FlagBinding.Target.Legal

/-!
# Compilation of a schema

A schema is checked and then becomes a file of code for each of its files that has flags and for
which code is wanted.

## Main definitions

* `Output`: a generated file.
* `compileFile`: the code of a file, laid out or not.
* `compile`: the generated files of a schema.
-/

namespace FlagBinding

open Schema Emit Target

/-- A generated file. -/
structure Output where
  name : String
  content : String
  deriving DecidableEq

/-- The plans of the messages of a file that are not disabled. -/
def plans (file : File) : List Plan :=
  (file.messages.filter fun m => !m.disabled).map Plan.ofMessage

def impls (runtime : String) (file : File) : List Impl :=
  (plans file).flatMap fun p => [p.bindImpl runtime, p.defaultsImpl runtime]

/-- The code of a file as it is emitted, with an empty line after each implementation. -/
def plainCode (runtime : String) (file : File) : String :=
  Text.join "\n" ((impls runtime file).flatMap fun i => [i.text, ""])

/-- The code of a file when it is laid out; none if it is not legal. -/
def formattedCode? (runtime : String) (file : File) : Option String :=
  ((impls runtime file).mapM Impl.canonical?).map layOut

def programName : String := "protoc-gen-flags"

def header (file : File) : String :=
  "// @generated by " ++ programName ++ ". DO NOT EDIT.\n// source: " ++ file.name ++ "\n\n"

def bindingNote (m : Message) : Note :=
  if m.disabled then .skippingMessage m.fullName else .bindingMessage m.fullName

def compileFile (settings : Settings) (file : File) : Journaled String := do
  ⟨file.messages.map bindingNote, .ok ()⟩
  if settings.format then
    match formattedCode? settings.runtime file with
    | some code => pure code
    | none => .lift (.error (.malformedCode (settings.outputName file.name)))
  else pure (plainCode settings.runtime file)

/-- The generated file of a file, unless it has no flags. -/
def outputOf (settings : Settings) (file : File) : Journaled (Option Output) := do
  if file.hasFlags then
    let name := settings.outputName file.name
    let code ← compileFile settings file
    .note (.generated name)
    pure (some ⟨name, header file ++ code⟩)
  else do
    .note (.skippingFile file.name)
    pure none

def outputs (settings : Settings) : List File → Journaled (List Output)
  | [] => pure []
  | file :: rest => do
    let first ← outputOf settings file
    let more ← outputs settings rest
    pure (first.toList ++ more)

/-- The generated files of a schema. -/
def compile (settings : Settings) (s : Schema) : Journaled (List Output) := do
  Check.checkSchema s
  outputs settings s.wanted

end FlagBinding
