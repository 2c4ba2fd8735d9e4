import Backtrack.Arithmetic.Grammar
import Backtrack.Proofs.GrammarRun

/-! Left factoring. Where both alternatives of a choice begin alike, the second one starts that
beginning over again. It can be taken out of the choice, since what was read once is
read again in the same way: only the records of the second reading are missing. -/

namespace Backtrack

/-- The same outcome, with some of the records left out. -/
def Reply.Abridges (short long : Reply α) : Prop :=
  short.outcome = long.outcome ∧ short.trace.Sublist long.trace

/-- On every input, both runs answer or neither does, and the answer of the one abridges
that of the other. -/
def Run.Abridges (short long : Run α) : Prop :=
  ∀ input, Option.Rel Reply.Abridges (short input) (long input)

namespace Run

/-- A choice of what follows, made once the beginning has been read. -/
theorem bind_alt_abridges (first : Run α) (left right : α → Run β) :
    (first.bind fun value => alt (left value) (right value)).Abridges (alt (first.bind left) (first.bind right)) := by
  intro input
  simp only [Run.bind, Run.alt]
  rcases first input with _ | ⟨trace, refusal | ⟨tail, value⟩⟩
  · exact .none
  · -- The beginning is refused twice.
    exact .some ⟨rfl, List.sublist_append_right ..⟩
  simp only
  rcases left value tail with _ | ⟨earlier, refusal | success⟩
  · exact .none
  · -- What follows it is refused, so all that was read is read again.
    rcases right value tail with _ | ⟨later, outcome⟩
    · exact .none
    · refine .some ⟨rfl, ?_⟩
      have again := (List.sublist_append_right trace later).append_left (trace ++ earlier ++ [.backtracked refusal])
      simpa only [Reply.after, List.append_assoc] using again
  · exact .some ⟨rfl, List.Sublist.refl _⟩

theorem map_alt (f : α → β) (first second : Run α) :
    Run.map f (alt first second) = alt (Run.map f first) (Run.map f second) := by
  funext input
  simp only [Run.map, Run.alt]
  rcases first input with _ | ⟨trace, refusal | success⟩
  · rfl
  · cases second input <;> rfl
  · rfl

end Run

/-- What follows the beginning, if there is anything, is chosen behind it. -/
theorem Grammar.extended_choice_abridged {Rule : Type → Type} (grammar : Grammar Rule) (depth : Nat)
    (beginning : Parser Rule α) (more : Parser Rule β) (join : α → β → δ) (alone : α → δ) :
    Run.Abridges
      (grammar.run depth (.bind beginning fun value => .alt (.map (join value) more) (.ret (alone value))))
      (grammar.run depth (.alt (.map2 beginning more join) (.map alone beginning))) := by
  have factored := Run.bind_alt_abridges (grammar.run depth beginning)
    (fun value => Run.map (join value) (grammar.run depth more)) (fun value => Run.ret (alone value))
  rw [← run_map2, ← Run.map_eq_bind] at factored
  simpa only [run_alt, run_bind, run_map, run_ret] using factored

/-- At every depth, a choice between two sequences with the same beginning ends where the factored
sequence does, in the same way and with the same value, tail or refusal; the records of
the factored one are a part of its records in their order. So it is for a choice between
the beginning with more behind it and the beginning alone, if what follows is chosen
once the beginning is there. The rules for sums and products are such choices. -/
theorem factored_choices_abridge {Rule : Type → Type} {α β δ : Type} (grammar : Grammar Rule) (depth : Nat) :
    (∀ (beginning : Parser Rule α) (first second : Parser Rule β),
      Run.Abridges (grammar.run depth (.seq beginning (.alt first second)))
        (grammar.run depth (.alt (.seq beginning first) (.seq beginning second)))) ∧
    (∀ (beginning : Parser Rule α) (more : Parser Rule β) (join : α → β → δ) (alone : α → δ),
      Run.Abridges
        (grammar.run depth (.bind beginning fun value => .alt (.map (join value) more) (.ret (alone value))))
        (grammar.run depth (.alt (.map2 beginning more join) (.map alone beginning)))) ∧
    ∀ {N : Type} [Arithmetic N] (operand : Arithmetic.Rule N N) (tail : Arithmetic.Rule N (Arithmetic.Chain N)),
      Run.Abridges
        ((Arithmetic.grammar N).run depth
          (.bind (.rule operand) fun value => .alt (.map (Arithmetic.Chain.applyTo value) (.rule tail)) (.ret value)))
        ((Arithmetic.grammar N).run depth (Arithmetic.chained operand tail)) := by
  refine ⟨fun beginning first second => ?_, fun beginning more join alone => ?_, fun {N} _ operand tail => ?_⟩
  · simpa only [Grammar.run_alt, Grammar.run_seq, Run.seq, Run.map_alt] using
      Run.bind_alt_abridges (grammar.run depth beginning)
        (fun value => Run.map (Prod.mk value) (grammar.run depth first))
        (fun value => Run.map (Prod.mk value) (grammar.run depth second))
  · exact grammar.extended_choice_abridged depth beginning more join alone
  · have factored := (Arithmetic.grammar N).extended_choice_abridged depth (.rule operand) (.rule tail)
      Arithmetic.Chain.applyTo id
    simpa only [Arithmetic.chained, Grammar.run_alt, Grammar.run_map _ _ id, Run.map_id, id] using factored

end Backtrack
