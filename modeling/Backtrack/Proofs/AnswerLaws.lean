import Backtrack.Calls
import Backtrack.Parser.Derived
import Backtrack.Proofs.DepthIndependence

/-! Answers without a depth. Parts that answer at different depths all answer at the largest
of them, so what a parser answers comes from what its parts answer, however deep each
of them goes. A repetition is a choice between one more value and none. -/

namespace Backtrack.Grammar

variable {Rule : Type → Type} {grammar : Grammar Rule} {input : Text}

/-- Two answers of one depth. -/
theorem Answers.together {first : Parser Rule α} {second : Parser Rule β} {other : Text} {reply : Reply α}
    {later : Reply β} (left : grammar.Answers first input reply) (right : grammar.Answers second other later) :
    ∃ depth, grammar.run depth first input = some reply ∧ grammar.run depth second other = some later := by
  obtain ⟨depth, ran⟩ := left
  obtain ⟨deeper, again⟩ := right
  exact ⟨max depth deeper, grammar.run_within (Nat.le_max_left _ _) first input reply ran,
    grammar.run_within (Nat.le_max_right _ _) second other later again⟩

theorem answers_take_iff {expected : CharClass} {reply : Reply Char} :
    grammar.Answers (.take expected) input reply ↔ Run.take expected input = some reply := by
  simp only [Answers, run_take, exists_const]

theorem answers_ret_iff {value : α} {reply : Reply α} :
    grammar.Answers (.ret value) input reply ↔ reply = ⟨[], .ok ⟨input, value⟩⟩ := by
  simp only [Answers, run_ret, exists_const, Run.ret, Option.some.injEq]
  exact eq_comm

theorem answers_rule_iff {name : Rule α} {reply : Reply α} :
    grammar.Answers (.rule name) input reply ↔ grammar.Answers (grammar.body name) input reply := by
  constructor
  · intro ⟨depth, ran⟩
    cases depth with
    | zero => cases ran
    | succ depth => exact ⟨depth, ran⟩
  · intro ⟨depth, ran⟩
    exact ⟨depth + 1, ran⟩

theorem answers_map_iff {f : α → β} {parser : Parser Rule α} {reply : Reply β} :
    grammar.Answers (.map f parser) input reply ↔ ∃ inner, grammar.Answers parser input inner ∧ inner.map f = reply := by
  simp only [Answers, run_map, Run.map_eq_some_iff]
  constructor
  · intro ⟨depth, inner, ran, same⟩
    exact ⟨inner, ⟨depth, ran⟩, same⟩
  · intro ⟨inner, ⟨depth, ran⟩, same⟩
    exact ⟨depth, inner, ran, same⟩

theorem answers_bind_iff {first : Parser Rule α} {next : α → Parser Rule β} {reply : Reply β} :
    grammar.Answers (.bind first next) input reply ↔
      (∃ trace refusal, grammar.Answers first input ⟨trace, .error refusal⟩ ∧ reply = ⟨trace, .error refusal⟩) ∨
      ∃ trace tail value rest, grammar.Answers first input ⟨trace, .ok ⟨tail, value⟩⟩ ∧
        grammar.Answers (next value) tail rest ∧ reply = rest.after trace := by
  constructor
  · intro ⟨depth, ran⟩
    rw [run_bind] at ran
    rcases Run.bind_eq_some_iff.mp ran with
      ⟨trace, refusal, refused, same⟩ | ⟨trace, tail, value, rest, read, continued, same⟩
    · exact .inl ⟨trace, refusal, ⟨depth, refused⟩, same⟩
    · exact .inr ⟨trace, tail, value, rest, ⟨depth, read⟩, ⟨depth, continued⟩, same⟩
  · rintro (⟨trace, refusal, ⟨depth, refused⟩, same⟩ | ⟨trace, tail, value, rest, read, continued, same⟩)
    · exact ⟨depth, (run_bind ..).symm ▸ Run.bind_eq_some_iff.mpr (.inl ⟨trace, refusal, refused, same⟩)⟩
    · obtain ⟨depth, ran, again⟩ := read.together continued
      exact ⟨depth, (run_bind ..).symm ▸ Run.bind_eq_some_iff.mpr (.inr ⟨trace, tail, value, rest, ran, again, same⟩)⟩

theorem answers_seq_iff {first : Parser Rule α} {second : Parser Rule β} {reply : Reply (α × β)} :
    grammar.Answers (.seq first second) input reply ↔
      grammar.Answers (.bind first fun a => .map (Prod.mk a) second) input reply := by
  simp only [Answers, run_seq, run_bind, run_map, Run.seq]

/-- The first part is refused, or the second goes on where the first has stopped. -/
theorem answers_seq_parts_iff {first : Parser Rule α} {second : Parser Rule β} {reply : Reply (α × β)} :
    grammar.Answers (.seq first second) input reply ↔
      (∃ trace refusal, grammar.Answers first input ⟨trace, .error refusal⟩ ∧ reply = ⟨trace, .error refusal⟩) ∨
      ∃ trace tail value rest, grammar.Answers first input ⟨trace, .ok ⟨tail, value⟩⟩ ∧
        grammar.Answers second tail rest ∧ reply = (rest.map (Prod.mk value)).after trace := by
  rw [answers_seq_iff, answers_bind_iff]
  refine or_congr_right ?_
  constructor
  · rintro ⟨trace, tail, value, _, read, continued, rfl⟩
    obtain ⟨rest, behind, rfl⟩ := answers_map_iff.mp continued
    exact ⟨trace, tail, value, rest, read, behind, rfl⟩
  · rintro ⟨trace, tail, value, rest, read, behind, rfl⟩
    exact ⟨trace, tail, value, _, read, answers_map_iff.mpr ⟨rest, behind, rfl⟩, rfl⟩

theorem answers_alt_iff {first second : Parser Rule α} {reply : Reply α} :
    grammar.Answers (.alt first second) input reply ↔
      (∃ trace refusal rest, grammar.Answers first input ⟨trace, .error refusal⟩ ∧ grammar.Answers second input rest ∧
        reply = rest.after (trace ++ [.backtracked refusal])) ∨
      ∃ trace success, grammar.Answers first input ⟨trace, .ok success⟩ ∧ reply = ⟨trace, .ok success⟩ := by
  constructor
  · intro ⟨depth, ran⟩
    rw [run_alt] at ran
    rcases Run.alt_eq_some_iff.mp ran with ⟨trace, refusal, rest, refused, continued, same⟩ | ⟨trace, success, read, same⟩
    · exact .inl ⟨trace, refusal, rest, ⟨depth, refused⟩, ⟨depth, continued⟩, same⟩
    · exact .inr ⟨trace, success, ⟨depth, read⟩, same⟩
  · rintro (⟨trace, refusal, rest, refused, continued, same⟩ | ⟨trace, success, ⟨depth, read⟩, same⟩)
    · obtain ⟨depth, ran, again⟩ := refused.together continued
      exact ⟨depth, (run_alt ..).symm ▸ Run.alt_eq_some_iff.mpr (.inl ⟨trace, refusal, rest, ran, again, same⟩)⟩
    · exact ⟨depth, (run_alt ..).symm ▸ Run.alt_eq_some_iff.mpr (.inr ⟨trace, success, read, same⟩)⟩

/-- The limit on the rounds grows with the depth, so it is never felt. -/
theorem answers_many_iff {parser : Parser Rule α} {reply : Reply (List α)} :
    grammar.Answers (.many parser) input reply ↔ grammar.Answers (.optional (.some parser) []) input reply := by
  have unrolled (depth : Nat) : grammar.run depth (.optional (.some parser) []) =
      Run.many (depth + 1) (grammar.run depth parser) := by
    simp only [Parser.optional, Parser.some, Parser.map2, run_alt, run_map, run_seq, run_many, run_ret]
    rfl
  constructor
  · rintro ⟨depth, ran⟩
    refine ⟨depth, ?_⟩
    rw [run_many] at ran
    rw [unrolled]
    exact Run.Within.many (.refl _) (Nat.le_succ depth) input reply ran
  · rintro ⟨depth, ran⟩
    refine ⟨depth + 1, ?_⟩
    rw [unrolled] at ran
    rw [run_many]
    exact Run.Within.many (grammar.run_within (Nat.le_succ depth) parser) (Nat.le_refl _) input reply ran

/-! What the parts answer, put together. -/

theorem Answers.map (f : α → β) {parser : Parser Rule α} {reply : Reply α}
    (answers : grammar.Answers parser input reply) : grammar.Answers (.map f parser) input (reply.map f) :=
  answers_map_iff.mpr ⟨reply, answers, rfl⟩

theorem Answers.seq {first : Parser Rule α} {second : Parser Rule β} {reply : Reply β}
    (read : grammar.Answers first input ⟨trace, .ok ⟨tail, value⟩⟩) (continued : grammar.Answers second tail reply) :
    grammar.Answers (.seq first second) input ((reply.map (Prod.mk value)).after trace) :=
  answers_seq_iff.mpr (answers_bind_iff.mpr (.inr ⟨trace, tail, value, _, read, continued.map _, rfl⟩))

theorem Answers.seq_refused {first : Parser Rule α} {second : Parser Rule β}
    (refused : grammar.Answers first input ⟨trace, .error refusal⟩) :
    grammar.Answers (.seq first second) input ⟨trace, .error refusal⟩ :=
  answers_seq_iff.mpr (answers_bind_iff.mpr (.inl ⟨trace, refusal, refused, rfl⟩))

theorem Answers.alt {first second : Parser Rule α} (read : grammar.Answers first input ⟨trace, .ok success⟩) :
    grammar.Answers (.alt first second) input ⟨trace, .ok success⟩ :=
  answers_alt_iff.mpr (.inr ⟨trace, success, read, rfl⟩)

theorem Answers.alt_refused {first second : Parser Rule α} {reply : Reply α}
    (refused : grammar.Answers first input ⟨trace, .error refusal⟩) (continued : grammar.Answers second input reply) :
    grammar.Answers (.alt first second) input (reply.after (trace ++ [.backtracked refusal])) :=
  answers_alt_iff.mpr (.inl ⟨trace, refusal, reply, refused, continued, rfl⟩)

/-! ## Successes -/

/-- The run ends with this success, whatever it has recorded. -/
def Yields (grammar : Grammar Rule) (parser : Parser Rule α) (input : Text) (success : Success α) : Prop :=
  ∃ trace, grammar.Answers parser input ⟨trace, .ok success⟩

theorem yields_ret_iff {value : α} {success : Success α} :
    grammar.Yields (.ret value) input success ↔ success = ⟨input, value⟩ := by
  simp [Yields, answers_ret_iff]

theorem yields_take_iff {expected : CharClass} {success : Success Char} :
    grammar.Yields (.take expected) input success ↔
      input = success.value :: success.tail ∧ expected.mem success.value = true := by
  simp only [Yields, answers_take_iff]
  constructor
  · intro ⟨trace, ran⟩
    exact Run.of_take_ok ran
  · intro ⟨same, member⟩
    exact ⟨[], by simp only [same, Run.take, member, ite_true]⟩

theorem yields_map_iff {f : α → β} {parser : Parser Rule α} {success : Success β} :
    grammar.Yields (.map f parser) input success ↔
      ∃ found, grammar.Yields parser input found ∧ found.mapValue f = success := by
  constructor
  · intro ⟨_, answers⟩
    obtain ⟨⟨trace, outcome⟩, inner, same⟩ := answers_map_iff.mp answers
    cases outcome with
    | error refusal => cases same
    | ok found =>
      cases same
      exact ⟨found, ⟨_, inner⟩, rfl⟩
  · rintro ⟨found, ⟨trace, inner⟩, rfl⟩
    exact ⟨trace, inner.map f⟩

theorem yields_bind_iff {first : Parser Rule α} {next : α → Parser Rule β} {success : Success β} :
    grammar.Yields (.bind first next) input success ↔
      ∃ found, grammar.Yields first input found ∧ grammar.Yields (next found.value) found.tail success := by
  constructor
  · intro ⟨_, answers⟩
    rcases answers_bind_iff.mp answers with
      ⟨_, refusal, _, same⟩ | ⟨trace, tail, value, ⟨later, outcome⟩, read, continued, same⟩
    · cases same
    · cases same
      exact ⟨⟨tail, value⟩, ⟨trace, read⟩, later, continued⟩
  · intro ⟨found, ⟨trace, read⟩, later, continued⟩
    exact ⟨_, answers_bind_iff.mpr (.inr ⟨trace, found.tail, found.value, _, read, continued, rfl⟩)⟩

theorem yields_seq_iff {first : Parser Rule α} {second : Parser Rule β} {success : Success (α × β)} :
    grammar.Yields (.seq first second) input success ↔ ∃ found, grammar.Yields first input found ∧
      ∃ other, grammar.Yields second found.tail other ∧ success = ⟨other.tail, (found.value, other.value)⟩ := by
  refine (exists_congr fun _ => answers_seq_iff).trans (yields_bind_iff.trans ?_)
  refine exists_congr fun found => and_congr_right fun _ => yields_map_iff.trans ?_
  exact exists_congr fun other => and_congr_right fun _ => eq_comm

/-! ## Refusals -/

/-- The run ends with this refusal, whatever it has recorded. -/
def Refuses (grammar : Grammar Rule) (parser : Parser Rule α) (input : Text) (refusal : Refusal) : Prop :=
  ∃ trace, grammar.Answers parser input ⟨trace, .error refusal⟩

variable {refusal : Refusal}

theorem refuses_take_iff {expected : CharClass} :
    grammar.Refuses (.take expected) input refusal ↔ (⟨expected, input⟩ : Attempt).refusal? = some refusal := by
  simp only [Refuses, answers_take_iff]
  cases input with
  | nil => simp [Run.take, Run.refuse, Attempt.refusal?]
  | cons c rest =>
    cases member : expected.mem c with
    | true => simp [Run.take, Attempt.refusal?, member]
    | false => simp [Run.take, Run.refuse, Attempt.refusal?, member]

theorem refuses_rule_iff {name : Rule α} :
    grammar.Refuses (.rule name) input refusal ↔ grammar.Refuses (grammar.body name) input refusal :=
  exists_congr fun _ => answers_rule_iff

theorem refuses_map_iff {f : α → β} {parser : Parser Rule α} :
    grammar.Refuses (.map f parser) input refusal ↔ grammar.Refuses parser input refusal := by
  constructor
  · intro ⟨trace, answers⟩
    obtain ⟨⟨recorded, outcome⟩, inner, same⟩ := answers_map_iff.mp answers
    cases outcome with
    | error other =>
      cases same
      exact ⟨_, inner⟩
    | ok success => cases same
  · intro ⟨trace, answers⟩
    exact ⟨trace, answers.map f⟩

theorem refuses_bind_iff {first : Parser Rule α} {next : α → Parser Rule β} :
    grammar.Refuses (.bind first next) input refusal ↔ grammar.Refuses first input refusal ∨
      ∃ found, grammar.Yields first input found ∧ grammar.Refuses (next found.value) found.tail refusal := by
  constructor
  · intro ⟨_, answers⟩
    rcases answers_bind_iff.mp answers with
      ⟨_, _, refused, same⟩ | ⟨trace, tail, value, ⟨later, outcome⟩, read, continued, same⟩
    · cases same
      exact .inl ⟨_, refused⟩
    · cases same
      exact .inr ⟨⟨tail, value⟩, ⟨trace, read⟩, later, continued⟩
  · rintro (⟨trace, refused⟩ | ⟨found, ⟨trace, read⟩, later, refused⟩)
    · exact ⟨trace, answers_bind_iff.mpr (.inl ⟨trace, refusal, refused, rfl⟩)⟩
    · exact ⟨_, answers_bind_iff.mpr (.inr ⟨trace, found.tail, found.value, _, read, refused, rfl⟩)⟩

/-- The first part is refused, or the second on what the first has left. -/
theorem refuses_seq_iff {first : Parser Rule α} {second : Parser Rule β} :
    grammar.Refuses (.seq first second) input refusal ↔ grammar.Refuses first input refusal ∨
      ∃ trace success, grammar.Answers first input ⟨trace, .ok success⟩ ∧ grammar.Refuses second success.tail refusal := by
  refine (exists_congr fun _ => answers_seq_iff).trans (refuses_bind_iff.trans (or_congr_right ?_))
  simp only [refuses_map_iff]
  constructor
  · intro ⟨found, ⟨trace, read⟩, refused⟩
    exact ⟨trace, found, read, refused⟩
  · intro ⟨trace, found, read, refused⟩
    exact ⟨found, ⟨trace, read⟩, refused⟩

/-- The refusal of the second alternative stands. -/
theorem refuses_alt_iff {first second : Parser Rule α} :
    grammar.Refuses (.alt first second) input refusal ↔
      (∃ other, grammar.Refuses first input other) ∧ grammar.Refuses second input refusal := by
  constructor
  · intro ⟨trace, answers⟩
    rcases answers_alt_iff.mp answers with ⟨earlier, other, ⟨later, outcome⟩, refused, continued, same⟩ | ⟨_, _, _, same⟩
    · cases same
      exact ⟨⟨other, earlier, refused⟩, later, continued⟩
    · cases same
  · intro ⟨⟨other, trace, refused⟩, later, again⟩
    exact ⟨_, refused.alt_refused again⟩

end Backtrack.Grammar
