import FlagBinding.Element.Error

/-!
# Why a flag or a command line is refused

## Main definitions

* `NameFault`: why a name cannot be registered.
* `CommandFault`: why a command line cannot be cut into flags and arguments.
* `FlagError`: all causes together; `FlagError.message?` gives their wording.
-/

namespace FlagBinding

open Text

/-- Why a name, or the alias beside it, cannot be that of a flag. -/
inductive NameFault
  | empty
  | startsWithDash
  | containsEquals
  | reserved
  | dashAlias
  deriving DecidableEq

def NameFault.message : NameFault → String
  | .empty => "name is empty"
  | .startsWithDash => "name starts with '-'"
  | .containsEquals => "name contains '='"
  | .reserved => "name is reserved"
  | .dashAlias => "short alias is '-'"

/-- Why a command line cannot be cut into flags and arguments. -/
inductive CommandFault
  /-- No flag is spelled so. -/
  | unknownArgument (argument : String)
  /-- The command line ends where a flag needs a value. -/
  | missingValue (flag : String)
  /-- The user asks for help. -/
  | helpRequested
  /-- The flag that asks for help takes no value. -/
  | helpWithValue
  deriving DecidableEq

/-- Why an operation on a set of flags fails. -/
inductive FlagError
  | redefined (name : String)
  | shortRedefined (short : Char) (name existing : String)
  | invalidName (name : String) (fault : NameFault)
  | noSuchFlag (name : String)
  | missingDeprecationMessage (name : String)
  | invalidArgument (flag input : String) (cause : ValueError)
  | command (fault : CommandFault)
  deriving DecidableEq

/-- The wording of an error; a command line that cannot be cut has none here. -/
def FlagError.message? : FlagError → Option String
  | .redefined name => some ("flag redefined: --" ++ name)
  | .shortRedefined short name existing =>
    some ("shorthand -" ++ short.toString ++ " for --" ++ name ++
      " is already used by --" ++ existing)
  | .invalidName name fault =>
    some ("invalid flag name " ++ Quoted.text name ++ ": " ++ fault.message)
  | .noSuchFlag name => some ("flag --" ++ name ++ " does not exist")
  | .missingDeprecationMessage name =>
    some ("deprecation message for flag --" ++ name ++ " must be set")
  | .invalidArgument flag input cause =>
    cause.message?.map fun text =>
      "invalid argument " ++ Quoted.text input ++ " for --" ++ flag ++ ": " ++ text
  | .command _ => none

end FlagBinding
