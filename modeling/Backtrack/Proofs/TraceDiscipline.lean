import Backtrack.Format.Grammar
import Backtrack.Proofs.GrammarRun

/-! Where a failure comes from. Only a character class refuses, and only a choice
goes on after a refusal, with a retreat from it as its first act. So refusals and
retreats alternate in every trace, and the failure of a run is the last refusal. -/

namespace Backtrack

theorem Trace.retreats_append (first second : List Refusal) :
    Trace.retreats (first ++ second) = Trace.retreats first ++ Trace.retreats second :=
  List.flatMap_append

/-- The refusal that a run ends with. No choice has retreated from it. -/
def Reply.pending (reply : Reply α) : Trace :=
  match reply.outcome with
  | .ok _ => []
  | .error refusal => [.refused refusal]

/-- Every refusal of the run but the one that it ends with is followed by the retreat
from it, and nothing else is recorded. -/
def Run.Paired (run : Run α) : Prop :=
  ∀ input reply, run input = some reply → ∃ refusals, reply.trace = Trace.retreats refusals ++ reply.pending

namespace Run

theorem paired_take (expected : CharClass) : (take expected).Paired := by
  intro input reply ran
  cases input with
  | nil =>
    cases ran
    exact ⟨[], rfl⟩
  | cons c rest =>
    simp only [take] at ran
    split at ran
    all_goals
      cases ran
      exact ⟨[], rfl⟩

theorem paired_ret (value : α) : (ret value).Paired := by
  intro input reply ran
  cases ran
  exact ⟨[], rfl⟩

theorem Paired.map (f : α → β) {run : Run α} (paired : run.Paired) : (Run.map f run).Paired := by
  intro input reply ran
  obtain ⟨inner, same, rfl⟩ := map_eq_some_iff.mp ran
  obtain ⟨refusals, recorded⟩ := paired input inner same
  refine ⟨refusals, recorded.trans ?_⟩
  obtain ⟨trace, outcome⟩ := inner
  cases outcome <;> rfl

theorem Paired.bind {first : Run α} {next : α → Run β} (paired : first.Paired)
    (later : ∀ value, (next value).Paired) : (Run.bind first next).Paired := by
  intro input reply ran
  rcases bind_eq_some_iff.mp ran with
    ⟨trace, refusal, refused, rfl⟩ | ⟨trace, tail, value, rest, read, continued, rfl⟩
  · exact paired input _ refused
  · obtain ⟨refusals, recorded⟩ := paired input _ read
    obtain ⟨others, followed⟩ := later value tail rest continued
    refine ⟨refusals ++ others, ?_⟩
    -- A success leaves nothing pending, so the two traces join without a gap.
    have closed : trace = Trace.retreats refusals := by simpa [Reply.pending] using recorded
    simp only [Reply.after, followed, closed, Trace.retreats_append, List.append_assoc]
    rfl

theorem Paired.alt {first second : Run α} (left : first.Paired) (right : second.Paired) :
    (Run.alt first second).Paired := by
  intro input reply ran
  rcases alt_eq_some_iff.mp ran with ⟨trace, refusal, rest, refused, continued, rfl⟩ | ⟨trace, success, read, rfl⟩
  · obtain ⟨refusals, recorded⟩ := left input _ refused
    obtain ⟨others, followed⟩ := right input rest continued
    refine ⟨refusals ++ refusal :: others, ?_⟩
    -- The retreat answers the refusal that was pending.
    have opened : trace = Trace.retreats refusals ++ [.refused refusal] := recorded
    simp only [Reply.after, followed, opened, Trace.retreats_append, List.append_assoc]
    rfl
  · exact left input _ read

theorem paired_kept : Run.Kept fun run => run.Paired where
  endless := fun _ _ ran => nomatch ran
  take := paired_take
  ret := paired_ret
  map := Paired.map
  bind := Paired.bind
  alt := Paired.alt

end Run

/-- The records of a run that ends are refusals, each followed by the retreat from
that same refusal. A run that fails ends with one more refusal, the one that it
reports; a run that succeeds does not. -/
theorem refusals_and_retreats_alternate {grammar : Grammar Rule} {parser : Parser Rule α} {input : Text}
    {reply : Reply α} (ends : grammar.Answers parser input reply) :
    ∃ refusals, match reply.outcome with
      | .ok _ => reply.trace = Trace.retreats refusals
      | .error refusal => reply.trace = Trace.retreats refusals ++ [.refused refusal] := by
  obtain ⟨depth, ran⟩ := ends
  obtain ⟨refusals, recorded⟩ := Run.paired_kept.run grammar depth parser input reply ran
  refine ⟨refusals, ?_⟩
  obtain ⟨trace, outcome⟩ := reply
  cases outcome with
  | ok success => simpa [Reply.pending] using recorded
  | error refusal => simpa [Reply.pending] using recorded

/-- A format text that breaks off within its first spec: four retreats, then the failure. -/
theorem unfinished_spec_alternates :
    ∃ trace, Format.grammar.Answers Format.quotedSpecs ['"', '%'] ⟨trace, .error (.rejected '%' "in [\"]")⟩ ∧
      trace.length = 9 ∧ ∃ refusals, trace = Trace.retreats refusals ++ [.refused (.rejected '%' "in [\"]")] := by
  have ends : Format.grammar.Answers Format.quotedSpecs ['"', '%']
      ⟨Trace.retreats [.rejected '%' "not in [%]", .endOfInput "in [s]", .endOfInput "in [f]",
        .rejected '%' "not in [%, \"]"] ++ [.refused (.rejected '%' "in [\"]")],
      .error (.rejected '%' "in [\"]")⟩ := ⟨4, rfl⟩
  exact ⟨_, ends, rfl, refusals_and_retreats_alternate ends⟩

end Backtrack
