import Backtrack.Proofs.GreedyRepetition

/-! Counted repetition against greedy repetition. Both go through the same rounds: the counted one
stops when it has enough of them, and where the rounds do not suffice it is refused as the
greedy one is stopped. -/

namespace Backtrack

variable {Rule : Type → Type} {grammar : Grammar Rule} {parser : Parser Rule α} {input last : Text}
  {rounds : List (Round α)} {final : Trace} {refusal : Refusal}

namespace Grammar

/-- The induction is on the limit of the repetition: every attempt at one more value leaves
a smaller one to those behind it. -/
theorem exists_repeats_of_run {depth limit : Nat} {reply : Reply (List α)}
    (ran : Run.many limit (grammar.run depth parser) input = some reply) :
    ∃ rounds last final refusal, grammar.Repeats parser input rounds last final refusal := by
  induction limit generalizing input reply with
  | zero => cases ran
  | succ limit ih =>
    rw [Run.many, Run.map_seq] at ran
    obtain ⟨own, attempt⟩ : ∃ own, Run.bind (grammar.run depth parser) (fun value =>
        Run.map (List.cons value) (Run.many limit (grammar.run depth parser))) input = some own := by
      rcases Run.alt_eq_some_iff.mp ran with ⟨_, _, _, refused, _⟩ | ⟨_, _, read, _⟩
      · exact ⟨_, refused⟩
      · exact ⟨_, read⟩
    rcases Run.bind_eq_some_iff.mp attempt with
      ⟨trace, refusal, refused, _⟩ | ⟨trace, tail, value, rest, read, continued, _⟩
    · exact ⟨[], input, trace, refusal, .stop ⟨depth, refused⟩⟩
    · obtain ⟨others, again, _⟩ := Run.map_eq_some_iff.mp continued
      obtain ⟨rounds, last, final, refusal, later⟩ := ih again
      exact ⟨_, last, final, refusal, .step ⟨depth, read⟩ later⟩

/-- Where a repetition answers, the rounds have come to an end, whether or not the parser takes
a character each time. -/
theorem Answers.exists_repeats {reply : Reply (List α)} (answers : grammar.Answers (.many parser) input reply) :
    ∃ rounds last final refusal, grammar.Repeats parser input rounds last final refusal := by
  obtain ⟨depth, ran⟩ := answers
  rw [run_many] at ran
  exact exists_repeats_of_run ran

/-- The rounds that are left are those of a repetition behind the counted one. -/
theorem Repeats.times (repeats : grammar.Repeats parser input rounds last final refusal) {count : Nat}
    (enough : count ≤ rounds.length) : ∃ tail,
      grammar.Answers (.times parser count) input
        ⟨(rounds.take count).flatMap Round.trace, .ok ⟨tail, (rounds.take count).map Round.value⟩⟩ ∧
      grammar.Repeats parser tail (rounds.drop count) last final refusal := by
  induction count generalizing input rounds with
  | zero => exact ⟨input, answers_ret_iff.mpr rfl, repeats⟩
  | succ count ih =>
    cases repeats with
    | stop refused => cases enough
    | step read later =>
      obtain ⟨tail, others, rest⟩ := ih later (Nat.le_of_succ_le_succ enough)
      exact ⟨tail, (read.seq others).map _, rest⟩

theorem Repeats.times_refused (repeats : grammar.Repeats parser input rounds last final refusal) {count : Nat}
    (few : rounds.length < count) :
    grammar.Answers (.times parser count) input ⟨rounds.flatMap Round.trace ++ final, .error refusal⟩ := by
  induction repeats generalizing count with
  | stop refused =>
    obtain ⟨count, rfl⟩ := Nat.exists_eq_succ_of_ne_zero (Nat.ne_zero_of_lt few)
    exact refused.seq_refused.map _
  | step read later ih =>
    obtain ⟨count, rfl⟩ := Nat.exists_eq_succ_of_ne_zero (Nat.ne_zero_of_lt few)
    rw [List.flatMap_cons, List.append_assoc]
    exact (read.seq (ih (Nat.lt_of_succ_lt_succ few))).map _

theorem Repeats.refused (repeats : grammar.Repeats parser input rounds last final refusal) :
    grammar.Refuses parser last refusal := by
  induction repeats with
  | stop refused => exact ⟨_, refused⟩
  | step _ _ ih => exact ih

theorem Repeats.of_times (repeats : grammar.Repeats parser input rounds last final refusal) {count : Nat}
    {success : Success (List α)} (counted : grammar.Yields (.times parser count) input success) :
    count ≤ rounds.length ∧ success.value = (rounds.take count).map Round.value ∧
      grammar.Repeats parser success.tail (rounds.drop count) last final refusal := by
  obtain ⟨trace, read⟩ := counted
  rcases Nat.lt_or_ge rounds.length count with few | enough
  · cases (repeats.times_refused few).unique read
  · obtain ⟨tail, same, others⟩ := repeats.times enough
    cases same.unique read
    exact ⟨enough, rfl, others⟩

/-- A repetition can be interrupted after any number of values. -/
theorem run_times_add (depth first second : Nat) : grammar.run depth (.times parser (first + second)) =
    grammar.run depth (.map2 (.times parser first) (.times parser second) fun values others => values ++ others) := by
  induction first with
  | zero =>
    rw [Nat.zero_add, run_map2, Parser.times, run_ret, Run.ret_bind]
    exact (Run.map_id _).symm
  | succ first ih =>
    rw [Nat.succ_add, run_map2, Parser.times, Parser.times, run_map2, run_map2, ih, run_map2]
    simp only [Run.map_bind, Run.bind_map, Run.map_map, Run.bind_assoc]
    rfl

end Grammar

/-- Where a greedy repetition answers, the counted one succeeds exactly for the counts up to the number
of its values. It then has the first of them, and the greedy repetition goes on behind it
to the others and to the same end. For a larger count it is refused as the parser is at
that end. A repetition counted in two steps is one counted by their sum. -/
theorem counted_repetition_opens_greedy {Rule : Type → Type} (grammar : Grammar Rule) (parser : Parser Rule α) :
    (∀ (input : Text) (reply : Reply (List α)), grammar.Answers (.many parser) input reply →
      ∃ last values, reply.outcome = .ok ⟨last, values⟩ ∧ ∀ count,
        ((∃ success, grammar.Yields (.times parser count) input success) ↔ count ≤ values.length) ∧
        (∀ success, grammar.Yields (.times parser count) input success → success.value = values.take count ∧
          grammar.Yields (.many parser) success.tail ⟨last, values.drop count⟩) ∧
        (values.length < count → ∃ refusal, grammar.Refuses parser last refusal ∧
          grammar.Refuses (.times parser count) input refusal)) ∧
    ∀ depth first second, grammar.run depth (.times parser (first + second)) =
      grammar.run depth (.map2 (.times parser first) (.times parser second) fun values others => values ++ others) := by
  refine ⟨fun input reply answers => ?_, fun depth first second => Grammar.run_times_add depth first second⟩
  obtain ⟨rounds, last, final, refusal, repeats⟩ := answers.exists_repeats
  have values : reply.outcome = .ok ⟨last, rounds.map Round.value⟩ := by rw [answers.unique repeats.many]
  refine ⟨last, rounds.map Round.value, values, fun count => ?_⟩
  rw [List.length_map]
  refine ⟨⟨fun ⟨_, counted⟩ => (repeats.of_times counted).1, fun enough => ?_⟩,
    fun success counted => ?_, fun few => ?_⟩
  · obtain ⟨tail, counted, _⟩ := repeats.times enough
    exact ⟨_, _, counted⟩
  · obtain ⟨_, first, others⟩ := repeats.of_times counted
    rw [first, ← List.map_take, ← List.map_drop]
    exact ⟨rfl, _, others.many⟩
  · exact ⟨refusal, repeats.refused, _, repeats.times_refused few⟩

/-- There is one argument, so a second one is refused as it is where the repetition has stopped. -/
theorem missing_argument_is_refused :
    Format.grammar.Answers (.many (Format.argument .str)) [',', '"', 'a', '"', ',']
      ⟨Trace.retreats [.rejected '"' "not in [\"]", .endOfInput "in [\"]"], .ok ⟨[','], [()]⟩⟩ ∧
    Format.grammar.Refuses (.times (Format.argument .str) 2) [',', '"', 'a', '"', ',']
      (.endOfInput "in [\"]") := by
  have many : Format.grammar.Answers (.many (Format.argument .str)) [',', '"', 'a', '"', ',']
      ⟨Trace.retreats [.rejected '"' "not in [\"]", .endOfInput "in [\"]"], .ok ⟨[','], [()]⟩⟩ := ⟨4, rfl⟩
  have own : Format.grammar.Answers (Format.argument .str) [',']
      ⟨[.refused (.endOfInput "in [\"]")], .error _⟩ := ⟨4, rfl⟩
  obtain ⟨last, values, same, counted⟩ := (counted_repetition_opens_greedy _ _).1 _ _ many
  cases same
  obtain ⟨refusal, ⟨trace, refused⟩, times⟩ := (counted 2).2.2 (by decide)
  cases refused.unique own
  exact ⟨many, times⟩

end Backtrack
