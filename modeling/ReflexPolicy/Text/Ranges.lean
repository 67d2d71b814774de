/-!
# Sets of characters given by ranges

A set of code points is written as the list of its ranges, in increasing order.
-/

namespace ReflexPolicy.Text

/-- Membership of a code point in a set of ranges, each given by its two ends; the search stops
at the first range that begins beyond the code point. -/
def inRanges (n : Nat) : List (Nat × Nat) → Bool
  | [] => false
  | (first, last) :: rest => decide (first ≤ n) && (decide (n ≤ last) || inRanges n rest)

end ReflexPolicy.Text
