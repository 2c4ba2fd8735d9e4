import Backtrack.Format.Grammar
import Backtrack.Proofs.DepthIndependence

/-! A run looks at its input through character classes alone, and a class that meets the
end of the input says so in the trace. So a run that records no such meeting does the
same on every longer text. -/

namespace Backtrack

variable {Rule : Type → Type}

theorem Trace.reachesEnd_append (first second : Trace) :
    Trace.reachesEnd (first ++ second) = (first.reachesEnd || second.reachesEnd) :=
  List.any_append

namespace Reply

theorem extend_map (f : α → β) (more : Text) (reply : Reply α) :
    (reply.map f).extend more = (reply.extend more).map f := by
  obtain ⟨trace, outcome⟩ := reply
  cases outcome <;> rfl

theorem extend_after (earlier : Trace) (more : Text) (reply : Reply α) :
    (reply.after earlier).extend more = (reply.extend more).after earlier := rfl

/-- Nothing is recorded at the end of the input, neither before nor in the answer. -/
theorem inside_after {earlier : Trace} {reply : Reply α} (inside : (reply.after earlier).trace.reachesEnd = false) :
    earlier.reachesEnd = false ∧ reply.trace.reachesEnd = false := by
  rw [after, Trace.reachesEnd_append] at inside
  exact Bool.or_eq_false_iff.mp inside

end Reply

namespace Run

/-- An answer that was found without meeting the end of the input is also the answer on
every longer input. -/
def Stable (run : Run α) : Prop :=
  ∀ input reply more, run input = some reply → reply.trace.reachesEnd = false →
    run (input ++ more) = some (reply.extend more)

theorem stable_take (expected : CharClass) : (take expected).Stable := by
  intro input reply more ran inside
  cases input with
  | nil =>
    cases ran
    cases inside
  | cons c rest =>
    rw [List.cons_append]
    simp only [take] at ran ⊢
    split at ran
    next member =>
      cases ran
      rw [if_pos member]
      rfl
    next other =>
      cases ran
      rw [if_neg other]
      rfl

theorem stable_ret (value : α) : (ret value).Stable := by
  intro input reply more ran inside
  cases ran
  rfl

theorem Stable.map (f : α → β) {run : Run α} (stable : run.Stable) : (Run.map f run).Stable := by
  intro input reply more ran inside
  obtain ⟨inner, same, rfl⟩ := map_eq_some_iff.mp ran
  rw [Reply.extend_map]
  exact map_eq_some_iff.mpr ⟨_, stable input inner more same inside, rfl⟩

theorem Stable.bind {first : Run α} {next : α → Run β} (left : first.Stable) (right : ∀ value, (next value).Stable) :
    (Run.bind first next).Stable := by
  intro input reply more ran inside
  apply bind_eq_some_iff.mpr
  rcases bind_eq_some_iff.mp ran with
    ⟨trace, refusal, refused, rfl⟩ | ⟨trace, tail, value, rest, read, continued, rfl⟩
  · exact .inl ⟨trace, refusal, left input _ more refused inside, rfl⟩
  · obtain ⟨before, behind⟩ := Reply.inside_after inside
    have again := left input _ more read before
    have further := right value tail rest more continued behind
    exact .inr ⟨trace, tail ++ more, value, _, again, further, Reply.extend_after trace more rest⟩

theorem Stable.alt {first second : Run α} (left : first.Stable) (right : second.Stable) :
    (Run.alt first second).Stable := by
  intro input reply more ran inside
  apply alt_eq_some_iff.mpr
  rcases alt_eq_some_iff.mp ran with ⟨trace, refusal, rest, refused, continued, rfl⟩ | ⟨trace, success, read, rfl⟩
  · obtain ⟨before, behind⟩ := Reply.inside_after inside
    rw [Trace.reachesEnd_append] at before
    -- The second alternative starts on the whole input again, so that is extended too.
    have again := left input _ more refused (Bool.or_eq_false_iff.mp before).1
    have other := right input rest more continued behind
    exact .inl ⟨trace, refusal, _, again, other, Reply.extend_after _ more rest⟩
  · exact .inr ⟨trace, _, left input _ more read inside, rfl⟩

theorem stable_kept : Run.Kept fun run => run.Stable where
  endless := fun _ _ _ ran => nomatch ran
  take := stable_take
  ret := stable_ret
  map := Stable.map
  bind := Stable.bind
  alt := Stable.alt

end Run

variable {grammar : Grammar Rule} {parser : Parser Rule α} {input : Text} {reply : Reply α}

/-- A run that ends and records no end of the input has, on every longer input, the answer
with the same trace, the same refusal or the same value, and the longer tail, and no
other answer. -/
theorem unread_text_changes_nothing (ends : grammar.Answers parser input reply)
    (inside : reply.trace.reachesEnd = false) (more : Text) :
    (∀ other, grammar.Answers parser (input ++ more) other ↔ other = reply.extend more) ∧
      (grammar.apply parser input = some reply → grammar.apply parser (input ++ more) = some (reply.extend more)) := by
  have stable (depth : Nat) := Run.stable_kept.run grammar depth parser input reply more
  constructor
  · obtain ⟨depth, ran⟩ := ends
    have again : grammar.Answers parser (input ++ more) (reply.extend more) := ⟨depth, stable depth ran inside⟩
    intro other
    constructor
    · exact fun answers => answers.unique again
    · rintro rfl
      exact again
  · intro ran
    have deeper : grammar.limit input ≤ grammar.limit (input ++ more) := grammar.limit_le (by simp)
    exact grammar.run_within deeper parser _ _ (stable _ ran inside)

/-- The search for specs ends at a percent sign within the argument, so this call is read
in the same way whatever stands behind it. -/
theorem settled_call_ignores_more :
    ∃ reply, Format.grammar.Answers Format.call
        ['p', 'r', 'i', 'n', 't', 'f', '(', '"', '%', 's', '"', ',', '"', '%', '"', ')'] reply ∧
      reply.trace.reachesEnd = false ∧ reply.trace.length = 12 ∧ Format.grammar.Answers Format.call
        (['p', 'r', 'i', 'n', 't', 'f', '(', '"', '%', 's', '"', ',', '"', '%', '"', ')'] ++ ['%', 's', '"'])
        (reply.extend ['%', 's', '"']) := by
  have ends : Format.grammar.Answers Format.call
      ['p', 'r', 'i', 'n', 't', 'f', '(', '"', '%', 's', '"', ',', '"', '%', '"', ')']
      ⟨Trace.retreats [.rejected '%' "not in [%]", .rejected '%' "not in [%]", .rejected '"' "in [s]",
        .rejected '"' "in [f]", .rejected '"' "not in [%, \"]", .rejected '"' "not in [\"]"], .ok ⟨[], ()⟩⟩ :=
    ⟨12, rfl⟩
  have longer := (unread_text_changes_nothing ends rfl ['%', 's', '"']).1
  exact ⟨_, ends, rfl, rfl, (longer _).mpr rfl⟩

end Backtrack
