import Backtrack.Proofs.TreeReading
import Backtrack.Report

/-! The rule in basic parsers and the rule in derived ones. Each calls only itself, and the
derived parsers are nothing but the basic ones under other names, so at every depth the
two run alike: they read, value and record the same. -/

namespace Backtrack

namespace Grammar

variable {Rule Other : Type → Type} {grammar : Grammar Rule} {other : Grammar Other} {parser : Parser Rule α}
  {second : Parser Other α} {input : Text} [Literal α]

/-- There is a report wherever there is an answer. -/
theorem exists_report {reply : Reply α} (ran : grammar.apply parser input = some reply) (demand : Demand) :
    ∃ report, grammar.report parser demand input = some report := by
  cases demand with
  | whole =>
    simp only [report, parseAll, ran, Option.map_some]
    exact ⟨_, rfl⟩
  | opening =>
    simp only [report, ran, Option.map_some]
    exact ⟨_, rfl⟩

theorem report_congr (alike : grammar.apply parser input = other.apply second input) (demand : Demand) :
    grammar.report parser demand input = other.report second demand input := by
  cases demand <;> simp only [report, parseAll, alike]

end Grammar

namespace Balanced

/-- The rules differ in whom they call. One level down, those that they call run alike. -/
theorem rules_run_alike (depth : Nat) : grammar.run depth (.rule .basic) = grammar.run depth (.rule .derived) := by
  induction depth with
  | zero => rfl
  | succ depth ih =>
    rw [Grammar.run_rule, Grammar.run_rule, body_eq, body_eq]
    simp only [pair, Grammar.run_alt, Grammar.run_map, Grammar.run_seq, ih]

/-- On every input both rules answer, and their answers are the same reply: the tree, the rest and
all that was recorded. So whatever is demanded, both reports are the same text or the
same failure. -/
theorem renditions_are_indistinguishable (input : Text) :
    ∃ reply, grammar.apply (.rule .basic) input = some reply ∧ grammar.apply (.rule .derived) input = some reply ∧
      ∀ demand, ∃ report, grammar.report (.rule .basic) demand input = some report ∧
        grammar.report (.rule .derived) demand input = some report := by
  have alike : grammar.apply (.rule .derived) input = grammar.apply (.rule .basic) input :=
    congrFun (rules_run_alike (grammar.limit input)).symm input
  obtain ⟨tree, rest, _, _, reads⟩ := apply_reads_tree .basic input
  obtain ⟨trace, ran⟩ := Grammar.apply_eq_ok_iff.mpr reads
  refine ⟨_, ran, alike.trans ran, fun demand => ?_⟩
  obtain ⟨report, reported⟩ := Grammar.exists_report ran demand
  exact ⟨report, reported, (Grammar.report_congr alike demand).trans reported⟩

end Balanced
end Backtrack
