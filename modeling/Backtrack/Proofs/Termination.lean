import Backtrack.Balanced.Grammar
import Backtrack.Format.Grammar
import Backtrack.Proofs.Ranking

/-! The grammars of the library come to an end on every input: each has a ranking of its
rules. An expression begins with its first operand, down to a factor, and a factor calls
another rule only behind a parenthesis or a minus sign. -/

namespace Backtrack

open Backtrack.Parser (Consuming Opening Repeating)

namespace Balanced

/-- A tree calls itself only behind a bracket. It may be empty itself. -/
def ranking : grammar.Ranking where
  rank _ := 0
  taking _ := False
  rank_lt _ := by decide
  consuming _ impossible := impossible.elim
  opening name := by cases name <;> simp [grammar, body, Opening, Consuming, Parser.optional, Parser.map4]
  repeating name := by cases name <;> simp [grammar, body, Repeating, Parser.optional, Parser.map4]

end Balanced

namespace Arithmetic

/-! ## Numerals -/

section

variable {Rule : Type → Type} {N : Type} [Arithmetic N] {taking allowed : ∀ {α : Type}, Rule α → Prop}

theorem consuming_digit : (digit : Parser Rule Nat).Consuming taking := by
  simp [digit, zeroDigit, nonzeroDigit, Consuming]

theorem repeating_digit : (digit : Parser Rule Nat).Repeating taking := by
  simp [digit, zeroDigit, nonzeroDigit, Repeating]

theorem repeating_integer : (integer : Parser Rule N).Repeating taking := by
  simp [integer, zeroDigit, nonzeroDigit, Parser.map2, Repeating, consuming_digit, repeating_digit]

theorem repeating_fraction : (fraction : Parser Rule N).Repeating taking := by
  simp [fraction, Parser.map2, Parser.some, Repeating, consuming_digit, repeating_digit]

theorem repeating_number : (number : Parser Rule N).Repeating taking := by
  simp [number, Parser.map2, Parser.optional, Repeating, repeating_integer, repeating_fraction]

theorem consuming_number : (number : Parser Rule N).Consuming taking := by
  simp [number, integer, zeroDigit, nonzeroDigit, Parser.map2, Consuming]

theorem opening_number : (number : Parser Rule N).Opening taking allowed := by
  simp [number, integer, fraction, digit, zeroDigit, nonzeroDigit, Parser.map2, Parser.optional, Parser.some,
    Opening, Consuming]

end

/-! ## Expressions -/

variable {N : Type}

/-- How many operands an expression may begin with, one within the other. -/
def Rule.rank : ∀ {α : Type}, Rule N α → Nat
  | _, .sum => 2
  | _, .product => 1
  | _, .factor => 0
  | _, .sumTail => 0
  | _, .productTail => 0

variable [Arithmetic N]

def ranking (N : Type) [Arithmetic N] : (grammar N).Ranking where
  rank := Rule.rank
  taking _ := True
  rank_lt name := by cases name <;> simp [Rule.rank, grammar]
  consuming name _ := by
    cases name <;> simp [grammar, body, chained, links, additive, multiplicative, operator, Parser.choice,
      Parser.map2, Parser.map3, Consuming, consuming_number]
  opening name := by
    cases name <;> simp [grammar, body, chained, links, additive, multiplicative, operator, Parser.choice,
      Parser.map2, Parser.map3, Opening, Consuming, opening_number, Rule.rank]
  repeating name := by
    cases name <;> simp [grammar, body, chained, links, additive, multiplicative, operator, Parser.choice,
      Parser.map2, Parser.map3, Repeating, repeating_number]

end Arithmetic

namespace Format

/-- The search for specs is above all rules of expressions, and calls none of them. -/
def rank : ∀ {α : Type}, CallRule α → Nat
  | _, .inl .specs => 5
  | _, .inr name => name.rank

/-- A format text may be empty, an expression may not. -/
def Taking : ∀ {α : Type}, CallRule α → Prop
  | _, .inl .specs => False
  | _, .inr _ => True

def ranking : grammar.Ranking where
  rank := rank
  taking := Taking
  rank_lt
    | .inl .specs => Nat.lt_succ_self 5
    | .inr name => Nat.lt_succ_of_lt ((Arithmetic.ranking Float).rank_lt name)
  consuming
    | .inl .specs, impossible => impossible.elim
    | .inr name, _ => (Parser.consuming_rename _).mpr ((Arithmetic.ranking Float).consuming name trivial)
  opening
    | .inl .specs => by
      simp [grammar, Grammar.extend, body, spec, Parser.map2, Parser.map3, Opening, Consuming]
    | .inr name => (Parser.opening_rename _).mpr ((Arithmetic.ranking Float).opening name)
  repeating
    | .inl .specs => by
      simp [grammar, Grammar.extend, body, spec, Parser.map2, Parser.map3, Repeating, Consuming]
    | .inr name => (Parser.repeating_rename _).mpr ((Arithmetic.ranking Float).repeating name)

theorem repeating_quotedSpecs : quotedSpecs.Repeating Taking := by
  simp [quotedSpecs, specs, Parser.map3, Repeating]

theorem repeating_argument (spec : Spec) : (argument spec).Repeating Taking := by
  cases spec <;> simp [argument, quotedText, sum, Parser.map2, Parser.map3, Repeating, Consuming]

/-- Each argument is added behind the parser for those before it. -/
theorem repeating_arguments_after {earlier : Parser CallRule Unit} (repeating : earlier.Repeating Taking)
    (specs : List Spec) :
    (specs.foldl (fun earlier spec => .map2 earlier (argument spec) fun _ _ => ()) earlier).Repeating Taking := by
  induction specs generalizing earlier with
  | nil => exact repeating
  | cons spec specs ih => exact ih ⟨repeating, repeating_argument spec⟩

theorem repeating_arguments (specs : List Spec) : (arguments specs).Repeating Taking := by
  have none : (.ret () : Parser CallRule Unit).Repeating Taking := trivial
  exact repeating_arguments_after none specs

theorem repeating_literal (word : Text) : (.literal word : Parser CallRule Text).Repeating Taking := by
  induction word with
  | nil => exact trivial
  | cons c word ih => exact ⟨trivial, ih⟩

theorem repeating_call : call.Repeating Taking := by
  simp [call, Parser.string, Parser.map4, Repeating, repeating_literal, repeating_quotedSpecs, repeating_arguments]

end Format

/-- Every rule of the grammars, and every parser that is built on them, ends on every input, with
the same answer at every depth from the limit for the input on. Within its own run a rule
is entered again only on a shorter suffix of its input, and whatever is repeated takes a
character at each success. -/
theorem grammars_terminate :
    Balanced.grammar.RulesTerminate ∧
    (∀ (N : Type) [Arithmetic N], (Arithmetic.grammar N).RulesTerminate ∧
      (Arithmetic.grammar N).Terminates (Arithmetic.integer : Parser (Arithmetic.Rule N) N) ∧
      (Arithmetic.grammar N).Terminates (Arithmetic.fraction : Parser (Arithmetic.Rule N) N) ∧
      (Arithmetic.grammar N).Terminates (Arithmetic.number : Parser (Arithmetic.Rule N) N)) ∧
    Format.grammar.RulesTerminate ∧
      Format.grammar.Terminates Format.quotedSpecs ∧
      (∀ specs, Format.grammar.Terminates (Format.arguments specs)) ∧
      Format.grammar.Terminates Format.call := by
  refine ⟨Balanced.ranking.rulesTerminate, ?_, ?_⟩
  · intro N _
    have numbers := Arithmetic.ranking N
    exact ⟨numbers.rulesTerminate, numbers.terminates Arithmetic.repeating_integer,
      numbers.terminates Arithmetic.repeating_fraction, numbers.terminates Arithmetic.repeating_number⟩
  · exact ⟨Format.ranking.rulesTerminate, Format.ranking.terminates Format.repeating_quotedSpecs,
      fun specs => Format.ranking.terminates (Format.repeating_arguments specs),
      Format.ranking.terminates Format.repeating_call⟩

end Backtrack
