/-!
# Sets of code points

A property of characters is given by the ranges of code points that have it.  The ranges of a set
are disjoint and stand in order, so a search can stop at the first range above the number.
-/

namespace SocBench.Text

/-- Whether a number lies in one of some ranges that stand in order, both ends of each included. -/
def inRanges (n : Nat) : List (Nat × Nat) → Bool
  | [] => false
  | (low, high) :: rest => low ≤ n && (n ≤ high || inRanges n rest)

end SocBench.Text
