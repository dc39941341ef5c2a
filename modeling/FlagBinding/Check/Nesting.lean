import FlagBinding.Check.Message

/-!
# Checks of a schema

A message must not nest itself, neither directly nor through others. The search goes depth first and
never looks at a message twice.

## Main definitions

* `visit`: the search from one message.
* `checkNesting`: the search from all messages for which code is wanted.
* `checkSchema`: all checks of a schema.
-/

namespace FlagBinding.Check

open Schema

/-- The names of the messages that a message nests. -/
def nestedNames (m : Message) : List String :=
  m.fields.filterMap fun f => f.nestedTarget?.map relativeName

/-- Search the messages nested below the one named `name`. `path` holds the messages around it and
`done` those whose search has ended. The answer is `done` with what has been searched, or the name
of a message that nests itself. `depth` bounds how deep the search may go. -/
def visit (s : Schema) : Nat → List String → List String → String → Except String (List String)
  | 0, _, done, _ => .ok done
  | depth + 1, path, done, name =>
    match s.findMessage? name with
    | none => .ok done
    | some m =>
      if m.disabled then .ok done
      else if path.contains name then .error name
      else if done.contains name then .ok done
      else do
        let done ← (nestedNames m).foldlM
          (fun done target => visit s depth (name :: path) done target)
          done
        return name :: done

/-- A depth that no search exceeds: on its way are distinct names of messages. -/
def depthBound (s : Schema) : Nat :=
  s.messages.length + 2

/-- The messages for which code is wanted, file by file. -/
def wantedMessages (s : Schema) : List Message :=
  s.wanted.flatMap (·.messages)

/-- No message nests itself. -/
def checkNesting (s : Schema) : Except CompileError Unit :=
  match (wantedMessages s).foldlM (fun done m => visit s (depthBound s) [] done m.fullName) [] with
  | .error name => .error (.recursion name)
  | .ok _ => .ok ()

/-- All checks of a list of messages, up to the first fault. -/
def checkMessages (s : Schema) : List Message → Journaled Unit
  | [] => pure ()
  | m :: rest => do
    checkMessage s m
    checkMessages s rest

/-- All checks of a schema. -/
def checkSchema (s : Schema) : Journaled Unit := do
  checkMessages s (wantedMessages s)
  .lift (checkNesting s)

end FlagBinding.Check
