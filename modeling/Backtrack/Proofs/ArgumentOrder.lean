import Backtrack.Proofs.AnswerLaws
import Backtrack.Proofs.CallReading
import Backtrack.Proofs.Termination

/-! The arguments of a call, one after the other. The parser for a list of specs is a tower
with the first argument at the bottom. Its run is that of the arguments in sequence, so the
list can be split anywhere. -/

namespace Backtrack.Format

open Grammar

/-- What an argument takes in front of the rest of the input. A number reaches as far as the
expression that is read there. -/
inductive Takes : Spec → Text → Text → Prop where
  | str {content} (rest) : '"' ∉ content → Takes .str (',' :: '"' :: content ++ ['"']) rest
  | num {content rest trace value} :
      (Arithmetic.grammar Float).apply (.rule .sum) (content ++ rest) = some ⟨trace, .ok ⟨rest, value⟩⟩ →
      Takes .num (',' :: content) rest

/-- Each argument takes its part where the one before has stopped. The last one leaves the tail. -/
inductive TakenInTurn (tail : Text) : List Spec → List Text → Prop where
  | nil : TakenInTurn tail [] []
  | cons {spec specs part parts} : Takes spec part (parts.flatten ++ tail) → TakenInTurn tail specs parts →
      TakenInTurn tail (spec :: specs) (part :: parts)

/-! ## The tower of arguments -/

section

variable (depth : Nat)

theorem run_argument_behind (earlier : Parser CallRule Unit) (spec : Spec) :
    grammar.run depth (.map2 earlier (argument spec) fun _ _ => ()) =
      Run.bind (grammar.run depth earlier) fun _ => grammar.run depth (argument spec) := by
  rw [Parser.map2, run_map, run_seq]
  exact Run.map_seq_unit _ _

/-- The parser at the bottom of the tower runs first, whatever it is. -/
theorem run_arguments_after (earlier : Parser CallRule Unit) (specs : List Spec) :
    grammar.run depth (specs.foldl (fun earlier spec => .map2 earlier (argument spec) fun _ _ => ()) earlier) =
      Run.bind (grammar.run depth earlier) fun _ => grammar.run depth (arguments specs) := by
  induction specs generalizing earlier with
  | nil =>
    have nothing : (fun _ : Unit => grammar.run depth (arguments [])) = Run.ret := funext fun _ => run_ret grammar depth ()
    rw [nothing, Run.bind_ret]
    rfl
  | cons spec specs ih =>
    rw [arguments, List.foldl_cons, List.foldl_cons, ih, ih, run_argument_behind, run_argument_behind, run_ret,
      Run.ret_bind, Run.bind_assoc]

theorem run_arguments_cons (spec : Spec) (specs : List Spec) :
    grammar.run depth (arguments (spec :: specs)) =
      Run.bind (grammar.run depth (argument spec)) fun _ => grammar.run depth (arguments specs) := by
  rw [arguments, List.foldl_cons, run_arguments_after, run_argument_behind, run_ret, Run.ret_bind]

theorem run_arguments_append (first second : List Spec) :
    grammar.run depth (arguments (first ++ second)) =
      Run.bind (grammar.run depth (arguments first)) fun _ => grammar.run depth (arguments second) := by
  rw [arguments, List.foldl_append]
  exact run_arguments_after depth _ second

end

variable {input tail rest : Text} {spec : Spec} {specs : List Spec} {refusal : Refusal}

theorem answers_arguments_cons {reply : Reply Unit} : grammar.Answers (arguments (spec :: specs)) input reply ↔
    grammar.Answers (.bind (argument spec) fun _ => arguments specs) input reply := by
  simp only [Answers, run_arguments_cons, run_bind]

/-! ## What one argument takes -/

/-- The rules of expressions answer what they answer by themselves. -/
theorem answers_sum_iff {reply : Reply Float} :
    grammar.Answers sum input reply ↔ (Arithmetic.grammar Float).apply (.rule .sum) input = some reply := by
  rw [((Arithmetic.ranking Float).rulesTerminate.rule .sum).apply_eq_some_iff]
  exact exists_congr fun depth => by
    rw [← (Arithmetic.grammar Float).run_extend depth 1 body (.rule .sum)]
    rfl

theorem yields_quotedText_iff : grammar.Yields quotedText input ⟨rest, ()⟩ ↔
    ∃ content, input = '"' :: content ++ '"' :: rest ∧ '"' ∉ content := by
  constructor
  · intro ⟨trace, depth, ran⟩
    have deeper := grammar.run_within (Nat.le_max_left depth (input.length + 1)) quotedText input _ ran
    exact of_reads_quotedText (Nat.le_max_right ..) (Run.reads_some_iff.mpr ⟨trace, deeper⟩)
  · rintro ⟨content, rfl, clear⟩
    obtain ⟨trace, ran⟩ := Run.reads_some_iff.mp (reads_quotedText clear rest (Nat.lt_succ_self _))
    exact ⟨trace, _, ran⟩

theorem yields_behind_comma_iff {second : Parser CallRule Unit} :
    grammar.Yields (.map2 (.take comma) second fun _ _ => ()) input ⟨rest, ()⟩ ↔
      ∃ behind, input = ',' :: behind ∧ grammar.Yields second behind ⟨rest, ()⟩ := by
  constructor
  · intro yields
    obtain ⟨_, both, same⟩ := yields_map_iff.mp yields
    obtain ⟨⟨behind, c⟩, sign, other, read, rfl⟩ := yields_seq_iff.mp both
    obtain ⟨rfl, member⟩ := yields_take_iff.mp sign
    cases same
    have isComma : c = ',' := by simpa [comma] using member
    exact ⟨behind, congrArg (· :: behind) isComma, read⟩
  · rintro ⟨behind, rfl, read⟩
    have sign : grammar.Yields (.take comma) (',' :: behind) ⟨behind, ','⟩ := yields_take_iff.mpr ⟨rfl, by simp [comma]⟩
    exact yields_map_iff.mpr ⟨_, yields_seq_iff.mpr ⟨_, sign, _, read, rfl⟩, rfl⟩

theorem yields_argument_iff : grammar.Yields (argument spec) input ⟨rest, ()⟩ ↔
    ∃ part, input = part ++ rest ∧ Takes spec part rest := by
  cases spec with
  | str =>
    refine yields_behind_comma_iff.trans ⟨?_, ?_⟩
    · rintro ⟨_, rfl, quoted⟩
      obtain ⟨content, rfl, clear⟩ := yields_quotedText_iff.mp quoted
      exact ⟨_, (quoted_argument_append content rest).symm, .str rest clear⟩
    · rintro ⟨_, rfl, takes⟩
      cases takes with
      | @str content _ clear =>
        exact ⟨_, quoted_argument_append content rest, yields_quotedText_iff.mpr ⟨content, rfl, clear⟩⟩
  | num =>
    refine yields_behind_comma_iff.trans ⟨?_, ?_⟩
    · rintro ⟨behind, rfl, read⟩
      obtain ⟨⟨tail, value⟩, ⟨trace, answers⟩, same⟩ := yields_map_iff.mp read
      cases same
      obtain ⟨depth, ran⟩ := answers
      obtain ⟨content, rfl⟩ := Run.leavesSuffix_kept.run grammar depth sum behind trace _ ran
      exact ⟨',' :: content, rfl, .num (answers_sum_iff.mp ⟨depth, ran⟩)⟩
    · rintro ⟨_, rfl, takes⟩
      cases takes with
      | num applied =>
        have read := answers_sum_iff.mpr applied
        exact ⟨_, rfl, yields_map_iff.mpr ⟨_, ⟨_, read⟩, rfl⟩⟩

/-! ## What the arguments take together -/

theorem yields_arguments_cons_iff : grammar.Yields (arguments (spec :: specs)) input ⟨tail, ()⟩ ↔
    ∃ rest, grammar.Yields (argument spec) input ⟨rest, ()⟩ ∧ grammar.Yields (arguments specs) rest ⟨tail, ()⟩ := by
  refine (exists_congr fun _ => answers_arguments_cons).trans (yields_bind_iff.trans ⟨?_, ?_⟩)
  · intro ⟨⟨rest, _⟩, first, others⟩
    exact ⟨rest, first, others⟩
  · intro ⟨rest, first, others⟩
    exact ⟨⟨rest, ()⟩, first, others⟩

theorem yields_arguments_iff : grammar.Yields (arguments specs) input ⟨tail, ()⟩ ↔
    ∃ parts, input = parts.flatten ++ tail ∧ TakenInTurn tail specs parts := by
  induction specs generalizing input with
  | nil =>
    constructor
    · intro yields
      cases yields_ret_iff.mp yields
      exact ⟨[], rfl, .nil⟩
    · rintro ⟨_, rfl, taken⟩
      cases taken
      exact yields_ret_iff.mpr rfl
  | cons spec specs ih =>
    rw [yields_arguments_cons_iff]
    constructor
    · intro ⟨rest, first, others⟩
      obtain ⟨part, rfl, takes⟩ := yields_argument_iff.mp first
      obtain ⟨parts, rfl, taken⟩ := ih.mp others
      exact ⟨part :: parts, (List.append_assoc ..).symm, .cons takes taken⟩
    · rintro ⟨_, rfl, taken⟩
      cases taken with
      | @cons _ _ part parts takes taken =>
        exact ⟨parts.flatten ++ tail, yields_argument_iff.mpr ⟨part, List.append_assoc .., takes⟩,
          ih.mpr ⟨parts, rfl, taken⟩⟩

theorem refuses_arguments_iff : grammar.Refuses (arguments specs) input refusal ↔
    ∃ before spec after rest, specs = before ++ spec :: after ∧ grammar.Yields (arguments before) input ⟨rest, ()⟩ ∧
      grammar.Refuses (argument spec) rest refusal := by
  induction specs generalizing input with
  | nil =>
    constructor
    · intro ⟨trace, answers⟩
      cases answers_ret_iff.mp answers
    · rintro ⟨before, spec, after, rest, same, -⟩
      simp at same
  | cons spec specs ih =>
    refine (exists_congr fun _ => answers_arguments_cons).trans (refuses_bind_iff.trans ⟨?_, ?_⟩)
    · rintro (refused | ⟨⟨rest, _⟩, first, refused⟩)
      · exact ⟨[], spec, specs, input, rfl, yields_ret_iff.mpr rfl, refused⟩
      · obtain ⟨before, other, after, left, rfl, earlier, refused⟩ := ih.mp refused
        exact ⟨spec :: before, other, after, left, rfl, yields_arguments_cons_iff.mpr ⟨rest, first, earlier⟩, refused⟩
    · rintro ⟨before, other, after, left, same, earlier, refused⟩
      cases before with
      | nil =>
        cases same
        cases yields_ret_iff.mp earlier
        exact .inl refused
      | cons _ before =>
        cases same
        obtain ⟨rest, first, others⟩ := yields_arguments_cons_iff.mp earlier
        exact .inr ⟨⟨rest, ()⟩, first, ih.mpr ⟨before, other, after, left, rfl, others, refused⟩⟩

/-- The arguments are taken in turn, each one where the one before has stopped. They succeed
exactly where all of them do, and else end with the refusal of the first one that is
refused. Arguments in two groups run like all of them together. -/
theorem arguments_are_taken_in_turn :
    (∀ (specs : List Spec) (input : Text), ∃ reply, grammar.apply (arguments specs) input = some reply) ∧
    (∀ (specs : List Spec) (input tail : Text),
      (∃ trace, grammar.apply (arguments specs) input = some ⟨trace, .ok ⟨tail, ()⟩⟩) ↔
        ∃ parts, input = parts.flatten ++ tail ∧ TakenInTurn tail specs parts) ∧
    (∀ (specs : List Spec) (input : Text) (refusal : Refusal),
      (∃ trace, grammar.apply (arguments specs) input = some ⟨trace, .error refusal⟩) ↔
        ∃ before spec after parts rest trace, specs = before ++ spec :: after ∧ input = parts.flatten ++ rest ∧
          TakenInTurn rest before parts ∧ grammar.apply (argument spec) rest = some ⟨trace, .error refusal⟩) ∧
    (∀ (first second : List Spec) (input : Text), grammar.apply (arguments (first ++ second)) input =
      (grammar.apply (.seq (arguments first) (arguments second)) input).map (Reply.map fun _ => ())) := by
  have terminates (specs : List Spec) := ranking.terminates (repeating_arguments specs)
  refine ⟨fun specs input => ?_, fun specs input tail => ?_, fun specs input refusal => ?_, fun first second input => ?_⟩
  · obtain ⟨reply, ran⟩ := (terminates specs).answers input
    exact ⟨reply, ran _ (Nat.le_refl _)⟩
  · simp only [(terminates specs).apply_eq_some_iff]
    exact yields_arguments_iff
  · simp only [(terminates specs).apply_eq_some_iff, (ranking.terminates (repeating_argument _)).apply_eq_some_iff]
    refine refuses_arguments_iff.trans ?_
    constructor
    · intro ⟨before, spec, after, rest, same, earlier, trace, refused⟩
      obtain ⟨parts, split, taken⟩ := yields_arguments_iff.mp earlier
      exact ⟨before, spec, after, parts, rest, trace, same, split, taken, refused⟩
    · intro ⟨before, spec, after, parts, rest, trace, same, split, taken, refused⟩
      exact ⟨before, spec, after, rest, same, yields_arguments_iff.mpr ⟨parts, split, taken⟩, trace, refused⟩
  · rw [apply, apply, run_arguments_append, ← Run.map_seq_unit, run_seq]
    rfl

end Backtrack.Format
