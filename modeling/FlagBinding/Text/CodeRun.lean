/-!
# Runs of code points

A Unicode property is written as a list of arithmetic runs of code points, and a case mapping as a
list of runs that are shifted as a whole.
-/

namespace FlagBinding.Text

/-- The code points `first, first + step, …, last`. -/
structure CodeRun where
  first : Nat
  last : Nat
  step : Nat

namespace CodeRun

/-- Whether `n` is one of the code points of the run. -/
def contains (r : CodeRun) (n : Nat) : Bool :=
  r.first ≤ n && n ≤ r.last && (n - r.first) % r.step == 0

end CodeRun

/-- Whether `c` lies in one of the runs. -/
def inRuns (runs : List CodeRun) (c : Char) : Bool :=
  runs.any (·.contains c.toNat)

/-- A run of code points whose images under a case mapping keep their distances: the first one
goes to `target`. -/
structure CaseRun where
  run : CodeRun
  target : Nat

/-- The image of `c` under the first run that holds it. -/
def shifted? (runs : List CaseRun) (c : Char) : Option Char :=
  (runs.find? (·.run.contains c.toNat)).map fun r => Char.ofNat (r.target + (c.toNat - r.run.first))

end FlagBinding.Text
