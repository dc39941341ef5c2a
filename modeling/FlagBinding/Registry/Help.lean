import FlagBinding.Registry.CommandLine

/-!
# What a command line offers

The description of a set of flags from which a help screen can be written.

## Main definitions

* `Registry.offers`: the entries of the arguments and of the flags.
* `Registry.arguments`: all that a command line is matched against, with the flag that shows help if
  there is room for it.
-/

namespace FlagBinding

/-- One entry of a help screen. -/
structure Offer where
  id : String
  long : Option String
  short : Option Char
  help : Option String
  hidden : Bool
  valueName : Option String
  /-- A value is taken only after an equals sign. -/
  requireEquals : Bool
  deriving DecidableEq

/-- The entry of the arguments that belong to no flag. -/
def Offer.arguments : Offer :=
  ⟨restName, none, none, none, true, none, false⟩

/-- The entry of a flag. -/
def Offer.ofFlag (flag : Flag) : Offer where
  id := flag.name
  long := some flag.name
  short := flag.short
  help := some flag.usage
  hidden := flag.hidden || flag.deprecation.isSome
  valueName := some flag.cell.kind
  requireEquals := flag.cell.implicit.isSome

def Offer.showHelp : Offer :=
  ⟨"help", some "help", some 'h', some "Print help", false, none, false⟩

/-- All entries, the one of the arguments first. -/
def Registry.offers (r : Registry) : List Offer :=
  .arguments :: r.flags.map .ofFlag

/-- The entries, and behind them that of the flag that shows help, unless its name or its alias is
in use. -/
def Registry.arguments (r : Registry) : List Offer :=
  r.offers ++ if r.offersHelp then [.showHelp] else []

end FlagBinding
