/-
  Sets of code points as lists of closed intervals or of runs, and case mappings as lists of runs.
-/

namespace Taskbook.Text

/-- Closed intervals of code points, in ascending order and apart from each other. -/
abbrev Ranges := List (Nat × Nat)

/-- Membership; the search ends at the first interval that starts above `n`. -/
def Ranges.contains : Ranges → Nat → Bool
  | [], _ => false
  | (lo, hi) :: rest, n => if n < lo then false else if n ≤ hi then true else Ranges.contains rest n

/-- The code points `first`, `first + step`, … up to `last`. -/
structure Run where
  first : Nat
  last : Nat
  step : Nat

/-- Whether one of the runs, given in ascending order, holds `n`. -/
def Run.anyHolds : List Run → Nat → Bool
  | [], _ => false
  | run :: rest, n =>
    if n < run.first then false
    else if n ≤ run.last then (n - run.first) % run.step = 0
    else Run.anyHolds rest n

/-- The characters `first`, `first + step`, … up to `last` map to `image`, `image + step`, …. -/
structure CaseRun where
  first : Nat
  last : Nat
  step : Nat
  image : Nat

/-- The image of `n` under the run that holds it. -/
def CaseRun.image? : List CaseRun → Nat → Option Nat
  | [], _ => none
  | run :: rest, n =>
    if n < run.first then none
    else if n ≤ run.last ∧ (n - run.first) % run.step = 0 then some (run.image + (n - run.first))
    else CaseRun.image? rest n

end Taskbook.Text
