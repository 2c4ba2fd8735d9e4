import Backtrack.Arithmetic.Number

/-! What a text keeps when its nonzero digits and its multiplicative signs are
exchanged for others of their kind. -/

namespace Backtrack.Arithmetic

/-- One character for each kind. -/
def shape (c : Char) : Char :=
  if '1' ≤ c ∧ c ≤ '9' then '1' else if c = '/' then '*' else c

def SameShape (first second : Text) : Prop := first.map shape = second.map shape

end Backtrack.Arithmetic
