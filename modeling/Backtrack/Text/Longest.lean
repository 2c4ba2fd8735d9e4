import Backtrack.Text

/-! Longest match. -/

namespace Backtrack.Text

/-- Of the texts in a language with which the whole text begins, the longest. Two
openings of equal length are the same, so there is at most one. -/
structure IsLongest (language : Text → Prop) (part whole : Text) : Prop where
  opens : part <+: whole
  member : language part
  longest : ∀ other, other <+: whole → language other → other.length ≤ part.length

end Backtrack.Text
