import Backtrack.Proofs.AnswerLaws
import Backtrack.Succession

/-! Sequences of any number of parsers. Each parser starts where the one before it has stopped,
wherever the brackets are, and the first refusal ends the nest. So a nest of sequences
answers like the list of its parsers. -/

namespace Backtrack

variable {Rule : Type → Type} {grammar : Grammar Rule} {input : Text} {trace : Trace}

/-! ## The values of a nest -/

namespace Succession

theorem length_values (nest : Succession Rule α) (value : α) : (nest.values value).length = nest.parsers.length := by
  induction nest with
  | single parser => rfl
  | joined first second left right => simp [values, parsers, left, right]

/-- Nothing is lost in the list of the values. -/
theorem values_injective (nest : Succession Rule α) : Function.Injective nest.values := by
  induction nest with
  | single parser =>
    intro value other same
    cases same
    rfl
  | joined first second left right =>
    intro ⟨a, b⟩ ⟨c, d⟩ same
    have lengths := (first.length_values a).trans (first.length_values c).symm
    obtain ⟨before, behind⟩ := List.append_inj same lengths
    exact Prod.ext (left before) (right behind)

/-- Values that are all there make one value of the nest. -/
theorem flat_eq_ok_iff {nest : Succession Rule α} {own : Except Refusal (Success α)} {values : List AnyValue}
    {tail : Text} :
    nest.flat own = .ok (values, tail) ↔ ∃ value, own = .ok ⟨tail, value⟩ ∧ nest.values value = values := by
  refine ⟨fun same => ?_, fun ⟨value, found, same⟩ => ?_⟩
  · cases own with
    | error refusal => cases same
    | ok success =>
      cases same
      exact ⟨success.value, rfl, rfl⟩
  · rw [found, ← same]
    rfl

theorem flat_eq_error_iff {nest : Succession Rule α} {own : Except Refusal (Success α)} {refusal : Refusal} :
    nest.flat own = .error refusal ↔ own = .error refusal := by
  cases own with
  | error other => simp [flat, Except.map]
  | ok success => simp [flat, Except.map]

/-- The values of the first part stand before those of the second. -/
theorem flat_joined (first : Succession Rule α) (second : Succession Rule β) (value : α)
    (own : Except Refusal (Success β)) : (joined first second).flat (own.map (Success.mapValue (Prod.mk value))) =
      (second.flat own).map fun (behind, last) => (first.values value ++ behind, last) := by
  cases own <;> rfl

theorem flat_injective (nest : Succession Rule α) : Function.Injective nest.flat := by
  intro own other same
  cases own with
  | error refusal => exact (flat_eq_error_iff.mp same.symm).symm
  | ok success =>
    obtain ⟨value, found, values⟩ := flat_eq_ok_iff.mp same.symm
    rw [found, nest.values_injective values]

end Succession

/-! ## Parsers in a list -/

namespace Grammar.InOrder

variable {left right : List (AnyParser Rule)} {outcome : Except Refusal (List AnyValue × Text)}

theorem single_iff {parser : Parser Rule α} : grammar.InOrder input [⟨parser⟩] trace outcome ↔
    ∃ own, grammar.Answers parser input ⟨trace, own⟩ ∧ (Succession.single parser).flat own = outcome := by
  refine ⟨fun order => ?_, fun ⟨own, answers, same⟩ => ?_⟩
  · cases order with
    | refused refused => exact ⟨_, refused, rfl⟩
    | read read others =>
      cases others
      exact ⟨_, by simpa using read, rfl⟩
  · rw [← same]
    cases own with
    | error refusal => exact .refused answers
    | ok success => exact List.append_nil trace ▸ InOrder.read answers .done

theorem append_refused {refusal : Refusal} (order : grammar.InOrder input left trace outcome)
    (refused : outcome = .error refusal) : grammar.InOrder input (left ++ right) trace (.error refusal) := by
  induction order with
  | done => cases refused
  | refused answers =>
    cases refused
    exact .refused answers
  | @read _ _ _ _ _ _ outcome _ _ read _ ih =>
    cases outcome with
    | error other =>
      cases refused
      exact .read read (ih rfl)
    | ok found => cases refused

theorem append_read {values : List AnyValue} {middle : Text} {given : Except Refusal (List AnyValue × Text)}
    (order : grammar.InOrder input left trace given) (succeeds : given = .ok (values, middle))
    (others : grammar.InOrder middle right later outcome) :
    grammar.InOrder input (left ++ right) (trace ++ later)
      (outcome.map fun (behind, last) => (values ++ behind, last)) := by
  induction order generalizing values with
  | done =>
    cases succeeds
    cases outcome <;> exact others
  | refused answers => cases succeeds
  | @read _ _ _ _ _ _ given _ _ read _ ih =>
    cases given with
    | error refusal => cases succeeds
    | ok found =>
      cases succeeds
      have continued := InOrder.read read (ih rfl)
      rw [List.append_assoc]
      cases outcome <;> exact continued

/-- The parsers of a list run like a sequence of its two parts. -/
theorem append_iff : grammar.InOrder input (left ++ right) trace outcome ↔
    (∃ refusal, grammar.InOrder input left trace (.error refusal) ∧ outcome = .error refusal) ∨
    ∃ earlier values middle later rest, grammar.InOrder input left earlier (.ok (values, middle)) ∧
      grammar.InOrder middle right later rest ∧ trace = earlier ++ later ∧
      outcome = rest.map fun (behind, last) => (values ++ behind, last) := by
  constructor
  · intro order
    induction left generalizing input trace outcome with
    | nil =>
      refine .inr ⟨[], [], input, trace, outcome, .done, order, rfl, ?_⟩
      cases outcome <;> rfl
    | cons parser left ih =>
      -- The first part is refused at once, or it has read one value and goes on as before.
      cases order with
      | refused answers => exact .inl ⟨_, .refused answers, rfl⟩
      | read read others =>
        rcases ih others with ⟨refusal, refused, rfl⟩ | ⟨earlier, values, middle, later, rest, before, behind, rfl, rfl⟩
        · exact .inl ⟨refusal, .read read refused, rfl⟩
        · refine .inr ⟨_, _, middle, later, rest, .read read before, behind, by simp, ?_⟩
          cases rest <;> rfl
  · rintro (⟨refusal, refused, rfl⟩ | ⟨earlier, values, middle, later, rest, before, behind, rfl, rfl⟩)
    · exact refused.append_refused rfl
    · exact before.append_read rfl behind

end Grammar.InOrder

/-! ## Nests -/

namespace Grammar

/-- The induction is on the brackets. Where a nest is joined, so are the lists of its parts. -/
theorem inOrder_iff {nest : Succession Rule α} {outcome : Except Refusal (List AnyValue × Text)} :
    grammar.InOrder input nest.parsers trace outcome ↔
      ∃ own, grammar.Answers nest.toParser input ⟨trace, own⟩ ∧ nest.flat own = outcome := by
  induction nest generalizing input trace outcome with
  | single parser => exact InOrder.single_iff
  | joined first second left right =>
    rw [Succession.parsers, InOrder.append_iff, Succession.toParser]
    constructor
    · rintro (⟨refusal, refused, rfl⟩ | ⟨earlier, values, middle, later, rest, before, behind, rfl, rfl⟩)
      · obtain ⟨own, answers, same⟩ := left.mp refused
        obtain rfl := Succession.flat_eq_error_iff.mp same
        exact ⟨_, answers.seq_refused, rfl⟩
      · obtain ⟨_, read, same⟩ := left.mp before
        obtain ⟨value, rfl, rfl⟩ := Succession.flat_eq_ok_iff.mp same
        obtain ⟨own, continued, rfl⟩ := right.mp behind
        exact ⟨_, read.seq continued, Succession.flat_joined first second value own⟩
    · rintro ⟨own, answers, rfl⟩
      rcases answers_seq_parts_iff.mp answers with
        ⟨_, refusal, refused, same⟩ | ⟨earlier, tail, value, ⟨later, rest⟩, read, continued, same⟩
      · cases same
        exact .inl ⟨refusal, left.mpr ⟨_, refused, rfl⟩, rfl⟩
      · cases same
        exact .inr ⟨earlier, _, tail, later, _, left.mpr ⟨_, read, rfl⟩, right.mpr ⟨rest, continued, rfl⟩, rfl,
          Succession.flat_joined first second value rest⟩

theorem answers_combined_iff (nest : Succession Rule α) (combine : α → β) {reply : Reply β} :
    grammar.Answers (.map combine nest.toParser) input reply ↔
      grammar.Combines nest.parsers nest.values combine input reply := by
  rw [answers_map_iff]
  constructor
  · rintro ⟨⟨trace, own⟩, answers, rfl⟩
    exact ⟨own, rfl, inOrder_iff.mpr ⟨own, answers, rfl⟩⟩
  · intro ⟨own, same, order⟩
    obtain ⟨found, answers, flat⟩ := inOrder_iff.mp order
    obtain rfl := nest.flat_injective flat
    exact ⟨_, answers, congrArg (Reply.mk reply.trace) same.symm⟩

end Grammar

/-- A nest of sequences answers like the list of its parsers, wherever the brackets are. It succeeds
where each parser does on what the one before it has left, with all values in their
order; else it has the refusal of the first that is refused. Its trace is that of the
parsers which have run. So two nests of the same parsers agree, and a function of
two, three, four or five values takes them in the order in which they are read. -/
theorem sequences_run_in_order {Rule : Type → Type} (grammar : Grammar Rule) :
    (∀ {α : Type} (nest : Succession Rule α) (input : Text) (trace : Trace)
      (outcome : Except Refusal (List AnyValue × Text)),
      (∃ own, grammar.Answers nest.toParser input ⟨trace, own⟩ ∧ nest.flat own = outcome) ↔
        grammar.InOrder input nest.parsers trace outcome) ∧
    (∀ {α β : Type} (nest : Succession Rule α) (other : Succession Rule β), nest.parsers = other.parsers →
      ∀ (input : Text) (trace : Trace) (own : Except Refusal (Success α)),
        grammar.Answers nest.toParser input ⟨trace, own⟩ →
        ∃ found, grammar.Answers other.toParser input ⟨trace, found⟩ ∧ other.flat found = nest.flat own) ∧
    ∀ {α β γ δ ε ζ : Type} (first : Parser Rule α) (second : Parser Rule β) (third : Parser Rule γ)
      (fourth : Parser Rule δ) (fifth : Parser Rule ε) (input : Text) (reply : Reply ζ),
      (∀ f, grammar.Answers (.map2 first second f) input reply ↔
        grammar.Combines [⟨first⟩, ⟨second⟩] (fun (a, b) => [⟨a⟩, ⟨b⟩]) (fun (a, b) => f a b) input reply) ∧
      (∀ f, grammar.Answers (.map3 first second third f) input reply ↔
        grammar.Combines [⟨first⟩, ⟨second⟩, ⟨third⟩] (fun (a, b, c) => [⟨a⟩, ⟨b⟩, ⟨c⟩]) (fun (a, b, c) => f a b c)
          input reply) ∧
      (∀ f, grammar.Answers (.map4 first second third fourth f) input reply ↔
        grammar.Combines [⟨first⟩, ⟨second⟩, ⟨third⟩, ⟨fourth⟩] (fun (a, b, c, d) => [⟨a⟩, ⟨b⟩, ⟨c⟩, ⟨d⟩])
          (fun (a, b, c, d) => f a b c d) input reply) ∧
      ∀ f, grammar.Answers (.map5 first second third fourth fifth f) input reply ↔
        grammar.Combines [⟨first⟩, ⟨second⟩, ⟨third⟩, ⟨fourth⟩, ⟨fifth⟩]
          (fun (a, b, c, d, e) => [⟨a⟩, ⟨b⟩, ⟨c⟩, ⟨d⟩, ⟨e⟩]) (fun (a, b, c, d, e) => f a b c d e) input reply := by
  refine ⟨fun nest input trace outcome => Grammar.inOrder_iff.symm, ?_, ?_⟩
  · intro α β nest other same input trace own answers
    have order := Grammar.inOrder_iff.mpr ⟨own, answers, rfl⟩
    rw [same] at order
    exact Grammar.inOrder_iff.mp order
  · intro α β γ δ ε ζ first second third fourth fifth input reply
    refine ⟨fun f => ?_, fun f => ?_, fun f => ?_, fun f => ?_⟩
    · exact Grammar.answers_combined_iff (.joined (.single first) (.single second)) _
    · exact Grammar.answers_combined_iff (.joined (.single first) (.joined (.single second) (.single third))) _
    · exact Grammar.answers_combined_iff
        (.joined (.single first) (.joined (.single second) (.joined (.single third) (.single fourth)))) _
    · exact Grammar.answers_combined_iff (.joined (.single first) (.joined (.single second)
        (.joined (.single third) (.joined (.single fourth) (.single fifth))))) _

/-- The first parser is given up, the second reads, and the third is refused, in both nests. -/
theorem brackets_on_either_side_agree :
    let first : Succession NoRule Char := .single (.optional (.oneOf ['a']) '-')
    let second : Succession NoRule Char := .single (.oneOf ['b'])
    let third : Succession NoRule Char := .single (.oneOf ['c'])
    let nest : Succession NoRule ((Char × Char) × Char) := .joined (.joined first second) third
    let other : Succession NoRule (Char × Char × Char) := .joined first (.joined second third)
    nest.parsers = other.parsers ∧ ∃ found, Grammar.empty.Answers other.toParser ['b', 'x']
      ⟨Trace.retreats [.rejected 'b' "in [a]"] ++ [.refused (.rejected 'x' "in [c]")], found⟩ ∧
      other.flat found = .error (.rejected 'x' "in [c]") := by
  intro first second third nest other
  have answers : Grammar.empty.Answers nest.toParser ['b', 'x']
      ⟨Trace.retreats [.rejected 'b' "in [a]"] ++ [.refused (.rejected 'x' "in [c]")],
        .error (.rejected 'x' "in [c]")⟩ := ⟨0, rfl⟩
  exact ⟨rfl, (sequences_run_in_order Grammar.empty).2.1 nest other rfl _ _ _ answers⟩

end Backtrack
