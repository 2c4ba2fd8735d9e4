/-! The numbers that expressions are evaluated in. Parsing uses them only through
these operations, in an order that is part of the result: doubles round after
each of them, rationals never do. -/

namespace Backtrack

class Arithmetic (N : Type) extends Add N, Sub N, Mul N, Div N, Neg N where
  ofNat : Nat → N

namespace Arithmetic

instance : Arithmetic Float where
  ofNat := Float.ofNat

instance : Arithmetic Rat where
  ofNat := Nat.cast

inductive Operator where
  | add
  | sub
  | mul
  | div
  deriving DecidableEq, Repr

def Operator.apply [Arithmetic N] : Operator → N → N → N
  | add, left, right => left + right
  | sub, left, right => left - right
  | mul, left, right => left * right
  | div, left, right => left / right

/-- What follows a left operand: operators, each with its right operand. -/
abbrev Chain (N : Type) := List (Operator × N)

/-- The operators apply one after the other, from the left. -/
def Chain.applyTo [Arithmetic N] (left : N) (chain : Chain N) : N :=
  chain.foldl (fun value (operator, right) => operator.apply value right) left

end Arithmetic
end Backtrack
