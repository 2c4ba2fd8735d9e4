import Backtrack.Run

/-! Parsers as data. A parser may refer to rules of a grammar by name, which is
how it recurs; the rule's body is supplied when the parser is run. -/

namespace Backtrack

/-- A parser whose values have the given type, over rules indexed by the type of
their values. -/
inductive Parser (Rule : Type → Type) : Type → Type 1 where
  | take (expected : CharClass) : Parser Rule Char
  | ret {α : Type} (value : α) : Parser Rule α
  | seq {α β : Type} (first : Parser Rule α) (second : Parser Rule β) : Parser Rule (α × β)
  | alt {α : Type} (first second : Parser Rule α) : Parser Rule α
  | map {α β : Type} (f : α → β) (parser : Parser Rule α) : Parser Rule β
  | bind {α β : Type} (first : Parser Rule α) (next : α → Parser Rule β) : Parser Rule β
  | lazy {α : Type} (supply : Unit → Parser Rule α) : Parser Rule α
  | rule {α : Type} (name : Rule α) : Parser Rule α
  | many {α : Type} (parser : Parser Rule α) : Parser Rule (List α)

namespace Parser

variable {Rule Other : Type → Type}

/-- Runs a parser with the given meaning of its rules. The limit bounds the
repetitions, not the rules. -/
def interpret (call : ∀ {α : Type}, Rule α → Run α) (limit : Nat) :
    ∀ {α : Type}, Parser Rule α → Text → Option (Reply α)
  | _, .take expected, input => Run.take expected input
  | _, .ret value, input => Run.ret value input
  | _, .seq first second, input => Run.seq (interpret call limit first) (interpret call limit second) input
  | _, .alt first second, input => Run.alt (interpret call limit first) (interpret call limit second) input
  | _, .map f parser, input => Run.map f (interpret call limit parser) input
  | _, .bind first next, input =>
    Run.bind (interpret call limit first) (fun value => interpret call limit (next value)) input
  | _, .lazy supply, input => interpret call limit (supply ()) input
  | _, .rule name, input => call name input
  | _, .many parser, input => Run.many limit (interpret call limit parser) input

/-- The same parser over other rules. -/
def rename (f : ∀ {α : Type}, Rule α → Other α) : ∀ {α : Type}, Parser Rule α → Parser Other α
  | _, .take expected => .take expected
  | _, .ret value => .ret value
  | _, .seq first second => .seq (rename f first) (rename f second)
  | _, .alt first second => .alt (rename f first) (rename f second)
  | _, .map g parser => .map g (rename f parser)
  | _, .bind first next => .bind (rename f first) (fun value => rename f (next value))
  | _, .lazy supply => .lazy (fun _ => rename f (supply ()))
  | _, .rule name => .rule (f name)
  | _, .many parser => .many (rename f parser)

end Parser
end Backtrack
