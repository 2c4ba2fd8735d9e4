import Backtrack.Proofs.AnswerLaws
import Backtrack.Proofs.Termination

/-! Repetition is a greedy loop. Each value opens a choice of its own, and all of those choices
but the last succeed at once, so a repetition gives up one attempt only and puts back
what that attempt had read. -/

namespace Backtrack.Grammar

variable {Rule : Type → Type} {grammar : Grammar Rule} {parser : Parser Rule α} {input last : Text}
  {rounds : List (Round α)} {final : Trace} {refusal : Refusal}

/-! ## The rounds -/

theorem Repeats.unique {others : List (Round α)} {rest : Text} {trace : Trace} {other : Refusal}
    (first : grammar.Repeats parser input rounds last final refusal)
    (second : grammar.Repeats parser input others rest trace other) :
    others = rounds ∧ rest = last ∧ trace = final ∧ other = refusal := by
  induction first generalizing others with
  | stop refused =>
    cases second with
    | stop again =>
      cases again.unique refused
      exact ⟨rfl, rfl, rfl, rfl⟩
    | step read => cases read.unique refused
  | step read _ ih =>
    cases second with
    | stop refused => cases refused.unique read
    | step again later =>
      cases again.unique read
      obtain ⟨rfl, same⟩ := ih later
      exact ⟨rfl, same⟩

/-- The text falls with each round, so the rounds come to an end. -/
theorem Repeats.exist (consumes : ∀ depth, Run.Consumes (grammar.run depth parser))
    (ends : ∀ rest, rest <:+ input → ∃ reply, grammar.Answers parser rest reply) :
    ∃ rounds last final refusal, grammar.Repeats parser input rounds last final refusal := by
  induction length : input.length using Nat.strongRecOn generalizing input with
  | ind _ ih =>
    obtain ⟨⟨trace, outcome⟩, answered⟩ := ends input (List.suffix_refl input)
    cases outcome with
    | error refusal => exact ⟨[], input, trace, refusal, .stop answered⟩
    | ok success =>
      obtain ⟨depth, ran⟩ := answered
      have shorter := consumes depth input trace success ran
      have suffix := grammar.run_leavesSuffix depth parser input trace success ran
      obtain ⟨rounds, last, final, refusal, later⟩ :=
        ih success.tail.length (length ▸ shorter) (fun rest behind => ends rest (behind.trans suffix)) rfl
      exact ⟨_, last, final, refusal, .step ⟨depth, ran⟩ later⟩

/-! ## The repetition -/

theorem Answers.some_refused (refused : grammar.Answers parser input ⟨final, .error refusal⟩) :
    grammar.Answers (.some parser) input ⟨final, .error refusal⟩ :=
  refused.seq_refused.map _

theorem Answers.some_step {trace later : Trace} {tail : Text} {value : α} {values : List α}
    (read : grammar.Answers parser input ⟨trace, .ok ⟨tail, value⟩⟩)
    (others : grammar.Answers (.many parser) tail ⟨later, .ok ⟨last, values⟩⟩) :
    grammar.Answers (.some parser) input ⟨trace ++ later, .ok ⟨last, value :: values⟩⟩ :=
  (read.seq others).map _

theorem Answers.many_stop (refused : grammar.Answers parser input ⟨final, .error refusal⟩) :
    grammar.Answers (.many parser) input ⟨final ++ [.backtracked refusal], .ok ⟨input, []⟩⟩ := by
  have nothing : grammar.Answers (.ret ([] : List α)) input ⟨[], .ok ⟨input, []⟩⟩ := answers_ret_iff.mpr rfl
  have stopped := refused.some_refused.alt_refused nothing
  simpa only [Reply.after, List.append_nil] using answers_many_iff.mpr stopped

theorem Answers.many_step {trace : Trace} {values : List α}
    (some : grammar.Answers (.some parser) input ⟨trace, .ok ⟨last, values⟩⟩) :
    grammar.Answers (.many parser) input ⟨trace, .ok ⟨last, values⟩⟩ :=
  answers_many_iff.mpr some.alt

theorem Repeats.many (repeats : grammar.Repeats parser input rounds last final refusal) :
    grammar.Answers (.many parser) input
      ⟨rounds.flatMap Round.trace ++ final ++ [.backtracked refusal], .ok ⟨last, rounds.map Round.value⟩⟩ := by
  induction repeats with
  | stop refused => exact refused.many_stop
  | step read _ ih => simpa using (read.some_step ih).many_step

/-- One value or more: the first value is not optional. -/
theorem Repeats.some (repeats : grammar.Repeats parser input rounds last final refusal) :
    grammar.Answers (.some parser) input (if rounds.isEmpty then ⟨final, .error refusal⟩
      else ⟨rounds.flatMap Round.trace ++ final ++ [.backtracked refusal], .ok ⟨last, rounds.map Round.value⟩⟩) := by
  cases repeats with
  | stop refused => exact refused.some_refused
  | step read later => simpa using read.some_step later.many

end Grammar

/-- Where every success of a parser takes a character, and it ends on every suffix of the input, one
sequence of rounds leads from the input to the refusal that stops it. The repetition does
not fail: it has the values of the rounds in their order, and is left where the refused
attempt began. What the rounds and that attempt record is followed by one retreat. A
repetition that must have a value is refused as the parser itself if there is no round,
and otherwise answers alike. -/
theorem repetition_is_greedy {Rule : Type → Type} {grammar : Grammar Rule} {parser : Parser Rule α} {input : Text}
    (consumes : ∀ depth, Run.Consumes (grammar.run depth parser))
    (ends : ∀ rest, rest <:+ input → ∃ reply, grammar.Answers parser rest reply) :
    ∃ rounds last final refusal, grammar.Repeats parser input rounds last final refusal ∧
      (∀ others rest trace other, grammar.Repeats parser input others rest trace other →
        others = rounds ∧ rest = last ∧ trace = final ∧ other = refusal) ∧
      (∀ reply, grammar.Answers (.many parser) input reply ↔
        reply = ⟨rounds.flatMap Round.trace ++ final ++ [.backtracked refusal], .ok ⟨last, rounds.map Round.value⟩⟩) ∧
      ∀ reply, grammar.Answers (.some parser) input reply ↔ reply =
        if rounds.isEmpty then ⟨final, .error refusal⟩
        else ⟨rounds.flatMap Round.trace ++ final ++ [.backtracked refusal], .ok ⟨last, rounds.map Round.value⟩⟩ := by
  obtain ⟨rounds, last, final, refusal, repeats⟩ := Grammar.Repeats.exist consumes ends
  refine ⟨rounds, last, final, refusal, repeats, fun _ _ _ _ => repeats.unique, ?_, ?_⟩
  · intro reply
    constructor
    · exact fun answers => answers.unique repeats.many
    · rintro rfl
      exact repeats.many
  · intro reply
    constructor
    · exact fun answers => answers.unique repeats.some
    · rintro rfl
      exact repeats.some

/-- The second argument breaks off behind its comma, which is put back. -/
theorem broken_argument_is_put_back :
    (∀ depth, Run.Consumes (Format.grammar.run depth (Format.argument .str))) ∧
    (∀ rest, rest <:+ [',', '"', 'a', '"', ',', '1'] → ∃ reply, Format.grammar.Answers (Format.argument .str) rest reply) ∧
    Format.grammar.Answers (.many (Format.argument .str)) [',', '"', 'a', '"', ',', '1']
      ⟨Trace.retreats [.rejected '"' "not in [\"]", .rejected '1' "in [\"]"], .ok ⟨[',', '1'], [()]⟩⟩ := by
  have consumes (depth : Nat) : Run.Consumes (Format.grammar.run depth (Format.argument .str)) :=
    Format.ranking.consumes depth (.inl trivial)
  have ends (rest : Text) (_ : rest <:+ [',', '"', 'a', '"', ',', '1']) :
      ∃ reply, Format.grammar.Answers (Format.argument .str) rest reply := by
    obtain ⟨reply, ran⟩ := (Format.ranking.terminates (Format.repeating_argument .str)).answers rest
    exact ⟨reply, _, ran _ (Nat.le_refl _)⟩
  obtain ⟨rounds, last, final, refusal, _, unique, many, _⟩ := repetition_is_greedy consumes ends
  have stops : Format.grammar.Repeats (Format.argument .str) [',', '1'] [] [',', '1']
      [.refused (.rejected '1' "in [\"]")] (.rejected '1' "in [\"]") := .stop ⟨4, rfl⟩
  obtain ⟨rfl, rfl, rfl, rfl⟩ := unique _ _ _ _ (.step ⟨4, rfl⟩ stops)
  exact ⟨consumes, ends, (many _).mpr rfl⟩

end Backtrack
