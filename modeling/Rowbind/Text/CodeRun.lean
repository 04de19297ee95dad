/-!
# Runs of code points

A property of characters is kept as a table: a list of **runs**, each a stretch of code points at a
fixed step, in ascending order. The scripts that write capital and small letters by turns need the
step; without it their letters would be a run each.

Membership is what this module decides. It says nothing of whether a table is complete: that is
each table's own statement.
-/

namespace Rowbind.Text

/-- **A run of code points**: `first`, `first + step`, and so on, none beyond `last`. -/
structure CodeRun where
  first : Nat
  last : Nat
  step : Nat
  deriving DecidableEq, Repr

/-- Whether a code point lies on the run. -/
def CodeRun.holds (r : CodeRun) (n : Nat) : Bool :=
  decide (r.first ≤ n) && decide (n ≤ r.last) && (n - r.first) % r.step == 0

/-- **Membership in ascending runs.** The search ends at the first run that begins beyond the code
point, so no later run can hold it. -/
def inRuns : List CodeRun → Nat → Bool
  | [], _ => false
  | r :: rs, n => if n < r.first then false else r.holds n || inRuns rs n

end Rowbind.Text
