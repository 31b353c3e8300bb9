import Formulary.Text

namespace Formulary.Text

/-! # Runs of letters

Letters whose other case is at a fixed distance.  The tables of letters list
them by runs.
-/

/-- Letters that follow each other at a distance, and the other case of the
first.  The other cases of the others are as far behind that one. -/
structure CaseRun where
  first : Nat
  last : Nat
  step : Nat
  other : Nat
deriving Repr

namespace CaseRun

def includes (run : CaseRun) (number : Nat) : Bool :=
  run.first ≤ number && number ≤ run.last && (number - run.first) % run.step = 0

/-- The other case of a letter that is in the run. -/
def image? (run : CaseRun) (point : CodePoint) : Option CodePoint :=
  CodePoint.ofValue? (run.other + (point.value - run.first))

/-- The other case of a letter that is in one of the runs. -/
def other? (runs : List CaseRun) (point : CodePoint) : Option CodePoint := do
  let run ← runs.find? fun run => run.includes point.value
  run.image? point

end CaseRun

end Formulary.Text
