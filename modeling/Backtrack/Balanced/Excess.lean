import Backtrack.Balanced.Tree

/-! Balanced texts by counting: a running count of brackets that are still open,
without any tree. -/

namespace Backtrack.Balanced

/-- Opening brackets less closing ones. -/
def excess (text : Text) : Int := text.count '(' - text.count ')'

/-- Brackets only, and none is closed before it is opened. -/
structure NeverBelow (text : Text) : Prop where
  brackets : ∀ c ∈ text, c = '(' ∨ c = ')'
  nonneg : ∀ start, start <+: text → 0 ≤ excess start

structure IsBalanced (text : Text) : Prop extends NeverBelow text where
  settled : excess text = 0

/-- The highest count that is reached on the way through the text. -/
structure IsPeak (peak : Nat) (text : Text) : Prop where
  bounds : ∀ start, start <+: text → excess start ≤ peak
  reached : ∃ start, start <+: text ∧ excess start = peak

end Backtrack.Balanced
