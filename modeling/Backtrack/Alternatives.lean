import Backtrack.Parser.Basic

/-! Choices of more than two alternatives. However the alternatives are nested, the
first one that succeeds decides. -/

namespace Backtrack

/-- A way to put brackets around the items of a list, in their order. -/
inductive Bracketing (α : Type u) where
  | single (item : α)
  | joined (left right : Bracketing α)

namespace Bracketing

def items : Bracketing α → List α
  | single item => [item]
  | joined left right => left.items ++ right.items

def alternatives : Bracketing (Parser Rule α) → Parser Rule α
  | single parser => parser
  | joined left right => .alt left.alternatives right.alternatives

end Bracketing

/-- The answer of the first run that succeeds, or of the last one. Each refusal before
it is recorded as given up, and each run starts on the same input. -/
inductive FirstOf (input : Text) : List (Run α) → Reply α → Prop where
  | found {run rest trace success} :
      run input = some ⟨trace, .ok success⟩ → FirstOf input (run :: rest) ⟨trace, .ok success⟩
  | last {run trace refusal} :
      run input = some ⟨trace, .error refusal⟩ → FirstOf input [run] ⟨trace, .error refusal⟩
  | next {run rest trace refusal reply} :
      run input = some ⟨trace, .error refusal⟩ → FirstOf input rest reply →
      FirstOf input (run :: rest) (reply.after (trace ++ [.backtracked refusal]))

end Backtrack
