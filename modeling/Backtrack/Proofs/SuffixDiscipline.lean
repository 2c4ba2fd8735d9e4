import Backtrack.Balanced.Grammar
import Backtrack.Calls
import Backtrack.Proofs.GrammarRun

/-! A run never leaves its input. What it leaves unread is a suffix, and so every class
that it tries, and every rule that it calls, is on a suffix. A class that is refused
names the character that it has met, so that character stands in the input. -/

namespace Backtrack

variable {Rule : Type → Type}

namespace Run

/-- After every success a suffix of the input is left. -/
def LeavesSuffix (run : Run α) : Prop :=
  ∀ input trace success, run input = some ⟨trace, .ok success⟩ → success.tail <:+ input

theorem leavesSuffix_take (expected : CharClass) : (take expected).LeavesSuffix := by
  intro input trace success ran
  rw [(of_take_ok ran).1]
  exact List.suffix_cons _ _

theorem leavesSuffix_ret (value : α) : (ret value).LeavesSuffix := by
  intro input trace success ran
  cases ran
  exact List.suffix_refl input

theorem LeavesSuffix.map (f : α → β) {run : Run α} (leaves : run.LeavesSuffix) : (Run.map f run).LeavesSuffix := by
  intro input trace success ran
  obtain ⟨found, read, rfl⟩ := of_map_ok ran
  exact leaves input trace found read

theorem LeavesSuffix.bind {first : Run α} {next : α → Run β} (left : first.LeavesSuffix)
    (right : ∀ value, (next value).LeavesSuffix) : (Run.bind first next).LeavesSuffix := by
  intro input trace success ran
  obtain ⟨earlier, found, later, read, continued⟩ := of_bind_ok ran
  exact (right found.value found.tail later success continued).trans (left input earlier found read)

theorem LeavesSuffix.alt {first second : Run α} (left : first.LeavesSuffix) (right : second.LeavesSuffix) :
    (Run.alt first second).LeavesSuffix := by
  intro input trace success ran
  obtain ⟨part, read | read⟩ := of_alt_ok ran
  · exact left input part success read
  · exact right input part success read

theorem leavesSuffix_kept : Run.Kept fun run => run.LeavesSuffix where
  endless := fun _ _ _ ran => nomatch ran
  take := leavesSuffix_take
  ret := leavesSuffix_ret
  map := LeavesSuffix.map
  bind := LeavesSuffix.bind
  alt := LeavesSuffix.alt

/-! ## What is collected on the way -/

variable {κ : Type u}

theorem mem_onSuccess {run : Run α} {input : Text} {trace : Trace} {success : Success α} {next : Success α → List κ}
    {item : κ} (read : run input = some ⟨trace, .ok success⟩) (member : item ∈ next success) :
    item ∈ run.onSuccess input next := by
  simpa only [onSuccess, read] using member

theorem mem_onRefusal {run : Run α} {input : Text} {trace : Trace} {refusal : Refusal} {next : List κ} {item : κ}
    (refused : run input = some ⟨trace, .error refusal⟩) (member : item ∈ next) : item ∈ run.onRefusal input next := by
  simpa only [onRefusal, refused] using member

theorem forall_mem_onSuccess {run : Run α} {input : Text} {next : Success α → List κ} {collected : List κ}
    {holds : κ → Prop} (now : ∀ item ∈ collected, holds item)
    (later : ∀ trace success, run input = some ⟨trace, .ok success⟩ → ∀ item ∈ next success, holds item) :
    ∀ item ∈ collected ++ run.onSuccess input next, holds item := by
  intro item member
  rcases List.mem_append.mp member with member | member
  · exact now item member
  · unfold onSuccess at member
    split at member
    next trace success read => exact later trace success read item member
    next => cases member

theorem forall_mem_onRefusal {run : Run α} {input : Text} {next collected : List κ} {holds : κ → Prop}
    (now : ∀ item ∈ collected, holds item) (later : ∀ item ∈ next, holds item) :
    ∀ item ∈ collected ++ run.onRefusal input next, holds item := by
  intro item member
  rcases List.mem_append.mp member with member | member
  · exact now item member
  · unfold onRefusal at member
    split at member
    next => exact later item member
    next => cases member

/-- What holds of the items of each attempt, seen from where it starts, holds of the items of
the whole repetition, if it still holds seen from further ahead. -/
theorem forall_mem_onAttempts {run : Run α} {collect : Text → List κ} (holds : Text → κ → Prop)
    (leaves : run.LeavesSuffix) (ahead : ∀ tail input item, tail <:+ input → holds tail item → holds input item)
    (each : ∀ input, ∀ item ∈ collect input, holds input item) (limit : Nat) (input : Text) :
    ∀ item ∈ run.onAttempts collect limit input, holds input item := by
  induction limit generalizing input with
  | zero => exact fun _ member => nomatch member
  | succ limit ih =>
    exact forall_mem_onSuccess (each input) fun trace success read item member =>
      ahead success.tail input item (leaves input trace success read) (ih success.tail item member)

theorem onRefusal_nil (run : Run α) (input : Text) : run.onRefusal input ([] : List κ) = [] := by
  unfold onRefusal
  split <;> rfl

end Run

namespace Parser

variable {call : ∀ {α : Type}, Rule α → Run α} {limit : Nat}

theorem interpret_leavesSuffix (leaves : ∀ {α : Type} (name : Rule α), Run.LeavesSuffix (call name)) (limit : Nat)
    (parser : Parser Rule α) : Run.LeavesSuffix (parser.interpret call limit) :=
  Run.leavesSuffix_kept.interpret leaves limit parser

/-- Classes and rules are met on suffixes only: where the text of all that they contribute is a
suffix of what they are met on, the text of all that is collected is a suffix of the input. -/
theorem collect_suffix {κ : Type u} (text : κ → Text) {tried : CharClass → Text → List κ}
    {called : ∀ {α : Type}, Rule α → Text → List κ} (leaves : ∀ {α : Type} (name : Rule α), Run.LeavesSuffix (call name))
    (trying : ∀ expected input, ∀ item ∈ tried expected input, text item <:+ input)
    (calling : ∀ {α : Type} (name : Rule α) input, ∀ item ∈ called name input, text item <:+ input)
    (parser : Parser Rule α) (input : Text) :
    ∀ item ∈ parser.collect call limit tried called input, text item <:+ input := by
  have suffix {β : Type} (part : Parser Rule β) := part.interpret_leavesSuffix leaves limit
  induction parser generalizing input with
  | take expected => exact trying expected input
  | ret value => exact fun _ member => nomatch member
  | seq first second left right =>
    exact Run.forall_mem_onSuccess (left input) fun trace success read item member =>
      (right success.tail item member).trans (suffix first input trace success read)
  | alt first second left right => exact Run.forall_mem_onRefusal (left input) (right input)
  | map f parser ih => exact ih input
  | bind first next left right =>
    exact Run.forall_mem_onSuccess (left input) fun trace success read item member =>
      (right success.value success.tail item member).trans (suffix first input trace success read)
  | lazy supply ih => exact ih () input
  | rule name => exact calling name input
  | many parser ih =>
    exact Run.forall_mem_onAttempts (fun start item => text item <:+ start) (suffix parser)
      (fun tail input item shorter inside => inside.trans shorter) ih limit input

theorem calls_suffix (leaves : ∀ {α : Type} (name : Rule α), Run.LeavesSuffix (call name)) (parser : Parser Rule α)
    (input : Text) : ∀ inner ∈ parser.calls call limit input, inner.input <:+ input := by
  refine collect_suffix Call.input leaves (fun _ _ _ member => absurd member List.not_mem_nil) ?_ parser input
  intro α name input item member
  obtain rfl := List.mem_singleton.mp member
  exact List.suffix_refl input

end Parser

/-! ## Attempts and refusals -/

/-- The refusals of character classes, without the retreats from them. -/
def Trace.refusals (trace : Trace) : List Refusal :=
  trace.filterMap fun
    | .refused refusal => some refusal
    | .backtracked _ => none

theorem Trace.refusals_append (first second : Trace) :
    Trace.refusals (first ++ second) = first.refusals ++ second.refusals :=
  List.filterMap_append

theorem Trace.mem_refusals {trace : Trace} {refusal : Refusal} : refusal ∈ trace.refusals ↔ .refused refusal ∈ trace := by
  simp only [refusals, List.mem_filterMap]
  constructor
  · rintro ⟨record, member, same⟩
    cases record with
    | refused other =>
      cases same
      exact member
    | backtracked other => cases same
  · exact fun member => ⟨_, member, rfl⟩

namespace Run

/-- The run records the refusals of these attempts, in their order, and no others. -/
def Accounts (run : Run α) (attempts : Text → List Attempt) : Prop :=
  ∀ input reply, run input = some reply → reply.trace.refusals = (attempts input).filterMap Attempt.refusal?

theorem accounts_endless (attempts : Text → List Attempt) : Accounts (fun _ => none : Run α) attempts :=
  fun _ _ ran => nomatch ran

theorem accounts_take (expected : CharClass) : (take expected).Accounts fun input => [⟨expected, input⟩] := by
  intro input reply ran
  cases input with
  | nil =>
    cases ran
    rfl
  | cons c rest =>
    simp only [take] at ran
    split at ran
    next member =>
      cases ran
      simp [Trace.refusals, Attempt.refusal?, member]
    next other =>
      cases ran
      simp [Trace.refusals, Attempt.refusal?, other]

theorem accounts_ret (value : α) : (ret value).Accounts fun _ => [] := by
  intro input reply ran
  cases ran
  rfl

variable {attempts others : Text → List Attempt}

theorem Accounts.map (f : α → β) {run : Run α} (accounts : run.Accounts attempts) :
    (Run.map f run).Accounts attempts := by
  intro input reply ran
  obtain ⟨inner, same, rfl⟩ := map_eq_some_iff.mp ran
  exact accounts input inner same

theorem Accounts.bind {first : Run α} {next : α → Run β} {further : α → Text → List Attempt}
    (left : first.Accounts attempts) (right : ∀ value, (next value).Accounts (further value)) :
    (Run.bind first next).Accounts fun input =>
      attempts input ++ first.onSuccess input fun success => further success.value success.tail := by
  intro input reply ran
  rcases bind_eq_some_iff.mp ran with
    ⟨trace, refusal, refused, rfl⟩ | ⟨trace, tail, value, rest, read, continued, rfl⟩
  · simp only [onSuccess, refused, List.append_nil]
    exact left input _ refused
  · simp only [onSuccess, read, List.filterMap_append, Reply.after, Trace.refusals_append]
    rw [left input _ read, right value tail rest continued]

theorem Accounts.seq {first : Run α} {second : Run β} (left : first.Accounts attempts) (right : second.Accounts others) :
    (Run.seq first second).Accounts fun input =>
      attempts input ++ first.onSuccess input fun success => others success.tail :=
  left.bind fun _ => right.map _

theorem Accounts.alt {first second : Run α} (left : first.Accounts attempts) (right : second.Accounts others) :
    (Run.alt first second).Accounts fun input => attempts input ++ first.onRefusal input (others input) := by
  intro input reply ran
  rcases alt_eq_some_iff.mp ran with ⟨trace, refusal, rest, refused, continued, rfl⟩ | ⟨trace, success, read, rfl⟩
  · simp only [onRefusal, refused, List.filterMap_append, Reply.after, Trace.refusals_append]
    rw [left input _ refused, right input rest continued]
    simp [Trace.refusals]
  · simp only [onRefusal, read, List.append_nil]
    exact left input _ read

theorem Accounts.many {run : Run α} (item : run.Accounts attempts) (limit : Nat) :
    (Run.many limit run).Accounts (run.onAttempts attempts limit) := by
  induction limit with
  | zero => exact fun _ _ ran => nomatch ran
  | succ limit ih =>
    intro input reply ran
    -- The last attempt gives way to a constant, and that tries nothing.
    have repeated := ((item.seq ih).map _).alt (accounts_ret []) input reply ran
    simp only [onRefusal_nil, List.append_nil] at repeated
    exact repeated

end Run

theorem Parser.interpret_accounts {call : ∀ {α : Type}, Rule α → Run α} {called : ∀ {α : Type}, Rule α → Text → List Attempt}
    (accounts : ∀ {α : Type} (name : Rule α), Run.Accounts (call name) (called name)) (limit : Nat)
    (parser : Parser Rule α) : Run.Accounts (parser.interpret call limit)
      (parser.collect call limit (fun expected rest => [⟨expected, rest⟩]) called) := by
  induction parser with
  | take expected => exact Run.accounts_take expected
  | ret value => exact Run.accounts_ret value
  | seq first second left right => exact left.seq right
  | alt first second left right => exact left.alt right
  | map f parser ih => exact ih.map f
  | bind first next left right => exact left.bind right
  | lazy supply ih => exact ih ()
  | rule name => exact accounts name
  | many parser ih => exact ih.many limit

namespace Grammar

variable (grammar : Grammar Rule)

theorem run_leavesSuffix (depth : Nat) (parser : Parser Rule α) : Run.LeavesSuffix (grammar.run depth parser) :=
  Run.leavesSuffix_kept.run grammar depth parser

/-- The refusals that a run records are those of the classes that it tries. -/
theorem run_accounts (depth : Nat) (parser : Parser Rule α) :
    Run.Accounts (grammar.run depth parser) (grammar.attempts depth parser) := by
  induction depth generalizing α with
  | zero => exact Parser.interpret_accounts (fun _ => Run.accounts_endless _) 0 parser
  | succ depth ih => exact Parser.interpret_accounts (fun name => ih (grammar.body name)) (depth + 1) parser

theorem attempts_suffix (depth : Nat) (parser : Parser Rule α) (input : Text) :
    ∀ attempt ∈ grammar.attempts depth parser input, attempt.input <:+ input := by
  have trying (expected : CharClass) (input : Text) :
      ∀ attempt ∈ ([⟨expected, input⟩] : List Attempt), attempt.input <:+ input := by
    intro attempt member
    obtain rfl := List.mem_singleton.mp member
    exact List.suffix_refl input
  -- One level down are the attempts of the rules that the parser calls.
  induction depth generalizing α input with
  | zero =>
    exact Parser.collect_suffix Attempt.input (fun _ => Run.leavesSuffix_kept.endless) trying
      (fun _ _ _ member => absurd member List.not_mem_nil) parser input
  | succ depth ih =>
    exact Parser.collect_suffix Attempt.input (fun name => grammar.run_leavesSuffix depth (grammar.body name)) trying
      (fun name rest => ih (grammar.body name) rest) parser input

end Grammar

/-- A class that names a character has met it at the start of its text. -/
theorem Attempt.mem_of_rejected {attempt : Attempt} {found : Char} {description : String}
    (refused : attempt.refusal? = some (.rejected found description)) : found ∈ attempt.input := by
  obtain ⟨expected, input⟩ := attempt
  cases input with
  | nil => cases refused
  | cons c rest =>
    simp only [refusal?] at refused
    split at refused
    · cases refused
    · cases refused
      exact List.mem_cons_self

/-- A success leaves a suffix of the input. In any run, whether it ends or not, a class is only
ever tried on a suffix of the input, also in alternatives that are abandoned later. So
every character that a record names as rejected stands in the input. -/
theorem runs_stay_within_suffixes (grammar : Grammar Rule) (parser : Parser Rule α) (input : Text) :
    (∀ reply, grammar.Answers parser input reply →
      (∀ success, reply.outcome = .ok success → ∃ text, input = text ++ success.tail) ∧
      ∀ found expected, .refused (.rejected found expected) ∈ reply.trace → found ∈ input) ∧
    ∀ depth, ∀ attempt ∈ grammar.attempts depth parser input, attempt.input <:+ input := by
  refine ⟨?_, fun depth => grammar.attempts_suffix depth parser input⟩
  rintro ⟨trace, outcome⟩ ⟨depth, ran⟩
  constructor
  · rintro success rfl
    obtain ⟨text, same⟩ := grammar.run_leavesSuffix depth parser input trace success ran
    exact ⟨text, same.symm⟩
  · intro found expected recorded
    have refused := Trace.mem_refusals.mpr recorded
    rw [grammar.run_accounts depth parser input _ ran] at refused
    obtain ⟨attempt, member, same⟩ := List.mem_filterMap.mp refused
    exact (grammar.attempts_suffix depth parser input attempt member).subset (Attempt.mem_of_rejected same)

/-- Behind the first pair a group is given up at a character that the input holds. -/
theorem abandoned_group_stays_within_suffixes :
    ∃ trace, Balanced.grammar.Answers (.rule .basic) ['(', ')', '(', 'x'] ⟨trace, .ok ⟨['(', 'x'], .node .leaf .leaf⟩⟩ ∧
      (∃ text, ['(', ')', '(', 'x'] = text ++ ['(', 'x']) ∧
      .refused (.rejected 'x' "in [)]") ∈ trace ∧ 'x' ∈ ['(', ')', '(', 'x'] ∧
      ⟨Balanced.closing, ['x']⟩ ∈ Balanced.grammar.attempts 5 (.rule .basic) ['(', ')', '(', 'x'] ∧
      ['x'] <:+ ['(', ')', '(', 'x'] := by
  have ends : Balanced.grammar.Answers (.rule .basic) ['(', ')', '(', 'x']
      ⟨Trace.retreats [.rejected ')' "in [(]", .rejected 'x' "in [(]", .rejected 'x' "in [)]"],
        .ok ⟨['(', 'x'], .node .leaf .leaf⟩⟩ := ⟨5, rfl⟩
  have recorded : Record.refused (.rejected 'x' "in [)]") ∈
      Trace.retreats [.rejected ')' "in [(]", .rejected 'x' "in [(]", .rejected 'x' "in [)]"] := by decide
  have tried : ⟨Balanced.closing, ['x']⟩ ∈ Balanced.grammar.attempts 5 (.rule .basic) ['(', ')', '(', 'x'] :=
    List.mem_of_getElem? (i := 5) rfl
  obtain ⟨within, every⟩ := runs_stay_within_suffixes Balanced.grammar (.rule .basic) ['(', ')', '(', 'x']
  obtain ⟨left, named⟩ := within _ ends
  exact ⟨_, ends, left _ rfl, recorded, named _ _ recorded, tried, every 5 _ tried⟩

end Backtrack
