import FlagBinding.Check.Fault
import FlagBinding.Schema.Document
import FlagBinding.Settings

/-!
# Compilation errors and the journal of a compilation

A compilation keeps a journal: the notes that it makes before it ends, whether well or badly.

## Main definitions

* `CompileError`: why a compilation fails; `CompileError.message?` gives the wording.
* `Note`: an entry of a journal; `Note.line` gives its text.
* `Journaled`: what came of a computation, with its notes.
-/

namespace FlagBinding

/-- Why a compilation fails. -/
inductive CompileError
  /-- The request is not well-formed. -/
  | request
  /-- A file of the request is not well-formed, or the files do not fit together. -/
  | descriptors
  | parameter (fault : ParameterFault)
  | field (message field : String) (fault : Check.FieldFault)
  /-- A message nests itself. -/
  | recursion (message : String)
  | missingFile (name : String)
  /-- What was emitted for a file cannot be laid out. -/
  | malformedCode (file : String)
  deriving DecidableEq

/-- The wording of an error; malformed input and malformed code have none here. -/
def CompileError.message? : CompileError → Option String
  | .request => none
  | .descriptors => none
  | .parameter fault => some ("Invalid plugin parameter " ++ fault.message)
  | .field message name fault =>
    some ("Invalid flag on field " ++ message ++ "." ++ name ++ ": " ++ fault.message)
  | .recursion message =>
    some ("Invalid flags on message " ++ message ++
      ": nested flag bindings recurse into this message")
  | .missingFile name => some ("File to generate " ++ name ++ " is not part of the request")
  | .malformedCode _ => none

/-- An entry of the journal of a compilation. -/
inductive Note
  | schemaRead (schema : Schema)
  | verifyingMessage (fullName : String)
  | verifyingField (message field kind : String)
  | skippingFile (name : String)
  | skippingMessage (fullName : String)
  | bindingMessage (fullName : String)
  | generated (output : String)

/-- The text of a note, with its level in front. -/
def Note.line : Note → String
  | schemaRead schema => "DEBUG schema: " ++ schema.document.pretty
  | verifyingMessage fullName => "DEBUG verifying message " ++ fullName
  | verifyingField message field kind =>
    "DEBUG verifying field " ++ message ++ "." ++ field ++ " (" ++ kind ++ ")"
  | skippingFile name => "DEBUG " ++ name ++ " has no flag options, skipping"
  | skippingMessage fullName => "DEBUG skipping disabled message " ++ fullName
  | bindingMessage fullName => "DEBUG generating bindings for " ++ fullName
  | generated output => "INFO generated " ++ output

/-- What came of a computation that keeps a journal. -/
structure Journaled (α : Type) where
  notes : List Note
  result : Except CompileError α

namespace Journaled

variable {α β : Type}

def pure (a : α) : Journaled α := ⟨[], .ok a⟩

/-- One computation after the other; the second does not take place if the first fails. -/
def bind (x : Journaled α) (f : α → Journaled β) : Journaled β :=
  match x.result with
  | .ok a => ⟨x.notes ++ (f a).notes, (f a).result⟩
  | .error e => ⟨x.notes, .error e⟩

instance : Monad Journaled where
  pure := pure
  bind := bind

def note (n : Note) : Journaled Unit := ⟨[n], .ok ()⟩

def lift (r : Except CompileError α) : Journaled α := ⟨[], r⟩

@[simp] theorem result_pure (a : α) : (Pure.pure a : Journaled α).result = .ok a := rfl

@[simp] theorem result_bind (x : Journaled α) (f : α → Journaled β) :
    (x >>= f).result = x.result.bind fun a => (f a).result := by
  show (bind x f).result = _
  unfold bind
  cases x.result <;> rfl

@[simp] theorem result_note (n : Note) : (note n).result = .ok () := rfl

@[simp] theorem result_lift (r : Except CompileError α) : (lift r).result = r := rfl

end Journaled

end FlagBinding
