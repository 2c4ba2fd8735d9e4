import Backtrack.Proofs.AnswerLaws
import Backtrack.Proofs.Reading

/-! How many records a run leaves, whatever they say. A sequence leaves as many as its parts
together, and a choice whose first alternative is refused leaves one more than both. -/

namespace Backtrack.Grammar

variable {Rule : Type → Type}

/-- The run ends with so many records, and this is what it reads. -/
def Costs (grammar : Grammar Rule) (parser : Parser Rule α) (input : Text) (count : Nat)
    (result : Option (α × Text)) : Prop :=
  ∃ reply, grammar.Answers parser input reply ∧ reply.trace.length = count ∧ reply.reading = result

variable {grammar : Grammar Rule} {parser first second : Parser Rule α} {other : Parser Rule β} {input tail : Text}
  {count more : Nat} {result : Option (α × Text)} {value : α}

theorem costs_some_iff : grammar.Costs parser input count (some (value, tail)) ↔
    ∃ trace, grammar.Answers parser input ⟨trace, .ok ⟨tail, value⟩⟩ ∧ trace.length = count := by
  constructor
  · intro ⟨⟨trace, outcome⟩, answers, length, reads⟩
    cases outcome with
    | error refusal => cases reads
    | ok success =>
      cases reads
      exact ⟨trace, answers, length⟩
  · intro ⟨trace, answers, length⟩
    exact ⟨_, answers, length, rfl⟩

theorem costs_none_iff : grammar.Costs parser input count none ↔
    ∃ trace refusal, grammar.Answers parser input ⟨trace, .error refusal⟩ ∧ trace.length = count := by
  constructor
  · intro ⟨⟨trace, outcome⟩, answers, length, reads⟩
    cases outcome with
    | error refusal => exact ⟨trace, refusal, answers, length⟩
    | ok success => cases reads
  · intro ⟨trace, refusal, answers, length⟩
    exact ⟨_, answers, length, rfl⟩

theorem costs_ret (value : α) (input : Text) : grammar.Costs (.ret value) input 0 (some (value, input)) :=
  costs_some_iff.mpr ⟨[], answers_ret_iff.mpr rfl, rfl⟩

theorem costs_take {expected : CharClass} {c : Char} (member : expected.mem c = true) (rest : Text) :
    grammar.Costs (.take expected) (c :: rest) 0 (some (c, rest)) :=
  costs_some_iff.mpr ⟨[], answers_take_iff.mpr (if_pos member), rfl⟩

theorem costs_take_refused {expected : CharClass} (others : ∀ c ∈ input.head?, expected.mem c = false) :
    grammar.Costs (.take expected) input 1 none := by
  cases input with
  | nil => exact costs_none_iff.mpr ⟨_, _, answers_take_iff.mpr rfl, rfl⟩
  | cons c rest =>
    have refused : ¬ expected.mem c = true := Bool.eq_false_iff.mp (others c rfl)
    exact costs_none_iff.mpr ⟨_, _, answers_take_iff.mpr (if_neg refused), rfl⟩

theorem costs_symbol (symbol : Char) (rest : Text) :
    grammar.Costs (.take (.oneOf [symbol])) (symbol :: rest) 0 (some (symbol, rest)) :=
  costs_take (CharClass.mem_oneOf.mpr List.mem_cons_self) rest

theorem costs_symbol_refused {symbol : Char} (absent : ∀ c ∈ input.head?, c ≠ symbol) :
    grammar.Costs (.take (.oneOf [symbol])) input 1 none :=
  costs_take_refused fun c head => Bool.eq_false_iff.mpr fun member => absent c head (by simpa using member)

theorem Costs.map (f : α → β) (costs : grammar.Costs parser input count result) :
    grammar.Costs (.map f parser) input count (result.map fun (value, tail) => (f value, tail)) := by
  obtain ⟨⟨trace, outcome⟩, answers, length, rfl⟩ := costs
  refine ⟨_, answers.map f, length, ?_⟩
  cases outcome <;> rfl

theorem Costs.seq {result : Option (β × Text)} (left : grammar.Costs first input count (some (value, tail)))
    (right : grammar.Costs other tail more result) : grammar.Costs (.seq first other) input (count + more)
      (result.map fun (next, rest) => ((value, next), rest)) := by
  obtain ⟨trace, read, rfl⟩ := costs_some_iff.mp left
  obtain ⟨⟨later, outcome⟩, continued, rfl, rfl⟩ := right
  refine ⟨_, read.seq continued, List.length_append, ?_⟩
  cases outcome <;> rfl

theorem Costs.seq_refused (left : grammar.Costs first input count none) :
    grammar.Costs (.seq first other) input count none := by
  obtain ⟨trace, refusal, refused, length⟩ := costs_none_iff.mp left
  exact costs_none_iff.mpr ⟨trace, refusal, refused.seq_refused, length⟩

theorem Costs.alt (left : grammar.Costs first input count (some (value, tail))) :
    grammar.Costs (.alt first second) input count (some (value, tail)) := by
  obtain ⟨trace, read, length⟩ := costs_some_iff.mp left
  exact costs_some_iff.mpr ⟨trace, read.alt, length⟩

/-- The refusal that was recorded in the first alternative is recorded again. -/
theorem Costs.alt_refused (left : grammar.Costs first input count none)
    (right : grammar.Costs second input more result) :
    grammar.Costs (.alt first second) input (count + 1 + more) result := by
  obtain ⟨trace, refusal, refused, rfl⟩ := costs_none_iff.mp left
  obtain ⟨reply, continued, rfl, rfl⟩ := right
  refine ⟨_, refused.alt_refused continued, ?_, rfl⟩
  simp only [Reply.after, List.length_append, List.length_singleton]

theorem Costs.rule {name : Rule α} (body : grammar.Costs (grammar.body name) input count result) :
    grammar.Costs (.rule name) input count result := by
  obtain ⟨reply, answers, rest⟩ := body
  exact ⟨reply, answers_rule_iff.mpr answers, rest⟩

theorem Costs.many_stop (refused : grammar.Costs parser input count none) :
    grammar.Costs (.many parser) input (count + 1) (some ([], input)) := by
  obtain ⟨reply, answers, rest⟩ := ((refused.seq_refused).map _).alt_refused (costs_ret [] input)
  exact ⟨reply, answers_many_iff.mpr answers, rest⟩

theorem Costs.some_step {values : List α} {rest : Text} (item : grammar.Costs parser input count (some (value, tail)))
    (others : grammar.Costs (.many parser) tail more (some (values, rest))) :
    grammar.Costs (.some parser) input (count + more) (some (value :: values, rest)) :=
  (item.seq others).map _

theorem Costs.many_step {values : List α} {rest : Text} (item : grammar.Costs parser input count (some (value, tail)))
    (others : grammar.Costs (.many parser) tail more (some (values, rest))) :
    grammar.Costs (.many parser) input (count + more) (some (value :: values, rest)) := by
  obtain ⟨reply, answers, last⟩ := (item.some_step others).alt
  exact ⟨reply, answers_many_iff.mpr answers, last⟩

end Backtrack.Grammar
