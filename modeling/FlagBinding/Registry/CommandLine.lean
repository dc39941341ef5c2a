import FlagBinding.Registry.Basic
import FlagBinding.Text.Trim

/-!
# Command lines

A command line is cut into occurrences of flags and arguments that stand for themselves. A flag is
written in full after two dashes or by its alias after one; several aliases may share a dash. A flag
that has a value of its own takes another one only after an equals sign; any other flag takes the
rest of its word or else the whole next word, whatever that looks like. After a lone double dash
nothing is a flag.

## Main definitions

* `Token`: an occurrence of a flag, or an argument.
* `Registry.scan`: the tokens of a command line.
* `Registry.parse`: the effect of a command line, flag by flag.
-/

namespace FlagBinding

open Text

/-- A part of a command line. -/
inductive Token
  | assign (flag input : String)
  | argument (text : String)
  deriving DecidableEq

/-- What the next word of a command line is read as. -/
inductive ScanMode
  | word
  /-- The value of a flag. -/
  | valueOf (flag : String)
  /-- An argument, whatever it looks like. -/
  | argument
  deriving DecidableEq

/-- The tokens of a word, and how the next word is read. -/
structure WordTokens where
  tokens : List Token
  mode : ScanMode := .word
  deriving DecidableEq

namespace Registry

/-- Whether the flags leave room for a flag that shows help. -/
def offersHelp (r : Registry) : Bool :=
  !r.contains "help" && (r.lookupShort? 'h').isNone

/-- The tokens of a word that follows two dashes. -/
def scanLong (r : Registry) (word : List Char) : Except CommandFault WordTokens :=
  let (name, value?) := match splitFirst? '=' word with
    | some (name, value) => (String.ofList name, some (String.ofList value))
    | none => (String.ofList word, none)
  match r.lookup? name with
  | some flag =>
    match value?, flag.cell.implicit with
    | some value, _ => .ok ⟨[.assign name value], .word⟩
    | none, some value => .ok ⟨[.assign name value], .word⟩
    | none, none => .ok ⟨[], .valueOf name⟩
  | none =>
    if r.offersHelp && name = "help" then
      .error (if value?.isSome then .helpWithValue else .helpRequested)
    else .error (.unknownArgument ("--" ++ name))

/-- The text without an equals sign in front. -/
def dropEquals : List Char → List Char
  | '=' :: rest => rest
  | word => word

/-- The tokens of a run of aliases. -/
def scanShorts (r : Registry) : List Char → Except CommandFault WordTokens
  | [] => .ok ⟨[], .word⟩
  | c :: rest =>
    match r.lookupShort? c with
    | none =>
      if r.offersHelp && c = 'h' then .error .helpRequested
      else .error (.unknownArgument ("-" ++ c.toString))
    | some flag =>
      match flag.cell.implicit with
      | some value =>
        match rest with
        | '=' :: given => .ok ⟨[.assign flag.name (String.ofList given)], .word⟩
        | _ => do
          let more ← scanShorts r rest
          return { more with tokens := .assign flag.name value :: more.tokens }
      | none =>
        if rest.isEmpty then .ok ⟨[], .valueOf flag.name⟩
        else .ok ⟨[.assign flag.name (String.ofList (dropEquals rest))], .word⟩

def scanWord (r : Registry) (word : String) : Except CommandFault WordTokens :=
  match word.toList with
  | ['-', '-'] => .ok ⟨[], .argument⟩
  | '-' :: '-' :: rest => r.scanLong rest
  | '-' :: c :: rest => r.scanShorts (c :: rest)
  | _ => .ok ⟨[.argument word], .word⟩

/-- The tokens of a command line; the first fault in it counts. -/
def scan (r : Registry) : ScanMode → List String → Except CommandFault (List Token)
  | .valueOf flag, [] => .error (.missingValue flag)
  | _, [] => .ok []
  | .valueOf flag, word :: rest => do
    let tokens ← r.scan .word rest
    return .assign flag word :: tokens
  | .argument, word :: rest => do
    let tokens ← r.scan .argument rest
    return .argument word :: tokens
  | .word, word :: rest => do
    let first ← r.scanWord word
    let tokens ← r.scan first.mode rest
    return first.tokens ++ tokens

def inputsOf (name : String) (tokens : List Token) : List String :=
  tokens.filterMap fun
    | .assign flag input => if flag = name then some input else none
    | .argument _ => none

/-- The arguments that belong to no flag, in order. -/
def argumentsOf (tokens : List Token) : List String :=
  tokens.filterMap fun
    | .assign _ _ => none
    | .argument text => some text

/-- Assign inputs to flags one after the other, up to the first that is refused. -/
def setAll (r : Registry) : List (String × String) → Outcome Unit
  | [] => ⟨r, [], .ok ()⟩
  | (name, input) :: rest =>
    match r.set name input with
    | ⟨r, warnings, .error e⟩ => ⟨r, warnings, .error e⟩
    | ⟨r, warnings, .ok ()⟩ =>
      let more := r.setAll rest
      { more with warnings := warnings ++ more.warnings }

/-- The assignments of a command line: all those to the flag that was registered first, then those
to the second, and so on. -/
def assignments (r : Registry) (tokens : List Token) : List (String × String) :=
  r.flags.flatMap fun flag => (inputsOf flag.name tokens).map fun input => (flag.name, input)

/-- The effect of a command line. The answer holds the arguments that belong to no flag. A command
line that cannot be cut changes nothing; one with a bad value keeps the assignments before it. -/
def parse (r : Registry) (args : List String) : Outcome (List String) :=
  match r.scan .word args with
  | .error fault => ⟨r, [], .error (.command fault)⟩
  | .ok tokens =>
    let outcome := r.setAll (r.assignments tokens)
    ⟨outcome.registry, outcome.warnings, outcome.result.map fun _ => argumentsOf tokens⟩

end Registry

end FlagBinding
