import Backtrack.Literal

/-! The derivation tree of a balanced text: a leaf for the empty text, a node for
a pair of brackets around the left tree, followed by the right tree. -/

namespace Backtrack.Balanced

inductive Tree where
  | leaf
  | node (left right : Tree)
  deriving DecidableEq, Repr

namespace Tree

/-- How deep the brackets nest. Only the left tree stands between brackets. -/
def depth : Tree → Nat
  | leaf => 0
  | node left right => max (left.depth + 1) right.depth

/-- The balanced text that the tree derives. -/
def brackets : Tree → Text
  | leaf => []
  | node left right => '(' :: left.brackets ++ ')' :: right.brackets

def text : Tree → String
  | leaf => "Leaf"
  | node left right => Literal.applied "Node" [left.text, right.text]

instance : Literal Tree := ⟨text⟩

end Tree
end Backtrack.Balanced
