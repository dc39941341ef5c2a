import FlagBinding.Check.Field
import FlagBinding.Journal

/-!
# Checks of a message

The flags of a message have distinct names and distinct short aliases, and the options of every
field fit the field. The first field in the way is blamed.

## Main definitions

* `checkNames`: the names and aliases of all flags together.
* `checkMessage`: all checks of a message.
-/

namespace FlagBinding.Check

open Schema

/-- A field with the options of its flag. -/
abbrev Flagged := Field × FieldFlags

/-- The fields of a message with options. -/
def flagged (m : Message) : List Flagged :=
  m.fields.filterMap fun f => f.flags.map fun flags => (f, flags)

/-- The fields of a message that register a flag. -/
def registering (m : Message) : List Flagged :=
  (flagged m).filter fun (_, flags) => flags.registers

/-- Why a flag cannot stand beside others. -/
def clash? (seen : List Flagged) (f : Field) (flags : FieldFlags) : Option FieldFault :=
  match seen.find? fun other => other.1.flagName other.2 = f.flagName flags with
  | some other => some (.nameTaken (f.flagName flags) other.1.name)
  | none =>
    flags.common.short.bind fun short =>
      (seen.find? fun other => other.2.common.short = some short).map fun other =>
        .shortTaken short other.1.name

/-- The first flag that clashes with one before it. -/
def firstClash? (seen : List Flagged) : List Flagged → Option (Field × FieldFault)
  | [] => none
  | (f, flags) :: rest =>
    match clash? seen f flags with
    | some fault => some (f, fault)
    | none => firstClash? (seen ++ [(f, flags)]) rest

/-- Distinct names and aliases. -/
def checkNames (m : Message) : Except CompileError Unit :=
  match firstClash? [] (registering m) with
  | some (f, fault) => .error (.field m.fullName f.name fault)
  | none => .ok ()

def checkFlagged (s : Schema) (m : Message) (x : Flagged) : Journaled Unit := do
  .note (.verifyingField m.fullName x.1.name x.2.kind.word)
  .lift ((checkField s x.1 x.2).mapError (.field m.fullName x.1.name))

/-- The options of all fields, up to the first fault. -/
def checkAll (s : Schema) (m : Message) : List Flagged → Journaled Unit
  | [] => pure ()
  | x :: rest => do
    checkFlagged s m x
    checkAll s m rest

/-- All checks of a message; a disabled message is not looked at. -/
def checkMessage (s : Schema) (m : Message) : Journaled Unit :=
  if m.disabled then pure ()
  else do
    .note (.verifyingMessage m.fullName)
    .lift (checkNames m)
    checkAll s m (flagged m)

end FlagBinding.Check
