/-! Sets of code points as ascending lists of closed ranges. -/

namespace Backtrack.Text

/-- Whether a number lies in one of the ranges. The ranges ascend, so the first
one that ends at or after the number decides. -/
def inRanges : List (Nat × Nat) → Nat → Bool
  | [], _ => false
  | (first, last) :: rest, n => if n ≤ last then first ≤ n else inRanges rest n

end Backtrack.Text
