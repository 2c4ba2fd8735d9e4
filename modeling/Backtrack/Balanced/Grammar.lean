import Backtrack.Balanced.Tree
import Backtrack.Grammar
import Backtrack.Parser.Derived

/-! Balanced brackets, `tree := '(' tree ')' tree | nothing`, once in the basic
parsers and once in the derived ones. The two are run alike and record alike. -/

namespace Backtrack.Balanced

inductive Rule : Type → Type where
  | basic : Rule Tree
  | derived : Rule Tree

def opening : CharClass := .oneOf ['(']
def closing : CharClass := .oneOf [')']

def body : ∀ {α : Type}, Rule α → Parser Rule α
  | _, .basic =>
    .alt
      (.map (fun (_, left, _, right) => Tree.node left right)
        (.seq (.take opening) (.seq (.rule .basic) (.seq (.take closing) (.rule .basic)))))
      (.ret .leaf)
  | _, .derived =>
    .optional
      (.map4 (.take opening) (.rule .derived) (.take closing) (.rule .derived) fun _ left _ right => .node left right)
      .leaf

def grammar : Grammar Rule := ⟨body, 2⟩

end Backtrack.Balanced
