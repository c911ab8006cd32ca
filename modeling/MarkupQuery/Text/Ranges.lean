import MarkupQuery.Utf8

/-!
Ranges of the numbers of characters, and runs of numbers that lie equally far apart, in which many
tables are shorter.
-/
namespace MarkupQuery.Text

/-- Ranges of numbers, each by its first and its last. -/
abbrev CharRanges := List (Nat × Nat)

/-- Whether a number lies in one of the ranges, which are in increasing order. -/
def CharRanges.contains (ranges : CharRanges) (n : Nat) : Bool :=
  match ranges with
  | [] => false
  | (low, high) :: others => if n < low then false else n ≤ high || contains others n

/-- The numbers from `low` to `high` that lie a multiple of `step` past `low`. -/
structure CharRun where
  low : Nat
  high : Nat
  step : Nat
  deriving DecidableEq, Repr

namespace CharRun

def members (r : CharRun) : List Nat :=
  (List.range ((r.high - r.low) / r.step + 1)).map fun k => r.low + k * r.step

/-- The run as ranges: one if nothing is left out, else one for each member. -/
def ranges (r : CharRun) : CharRanges :=
  if r.step == 1 then [(r.low, r.high)] else r.members.map fun n => (n, n)

end CharRun

end MarkupQuery.Text
