/-!
# Ranges of characters

A property of characters is given by the ranges of their numbers, in rising order.
-/

namespace LoxTokens

/-- Whether `n` lies in one of the ranges, which are in rising order, ends included. -/
def inRanges (n : Nat) : List (Nat × Nat) → Bool
  | [] => false
  | (low, high) :: ranges => low ≤ n && (n ≤ high || inRanges n ranges)

end LoxTokens
