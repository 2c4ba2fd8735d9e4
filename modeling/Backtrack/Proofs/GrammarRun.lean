import Backtrack.Grammar
import Backtrack.Parser.Derived

/-! Running a grammar follows the constructors of the parser, at every depth. What an
operation on runs answers comes from what its parts answer, and what the operations
keep holds of every run of every parser. -/

namespace Backtrack

variable {Rule : Type → Type}

namespace Grammar

variable (grammar : Grammar Rule) (depth : Nat)

@[simp] theorem run_take (expected : CharClass) : grammar.run depth (.take expected) = Run.take expected := by
  cases depth <;> rfl

@[simp] theorem run_ret {α : Type} (value : α) : grammar.run depth (.ret value) = Run.ret value := by
  cases depth <;> rfl

@[simp] theorem run_seq {α β : Type} (first : Parser Rule α) (second : Parser Rule β) :
    grammar.run depth (.seq first second) = Run.seq (grammar.run depth first) (grammar.run depth second) := by
  cases depth <;> rfl

@[simp] theorem run_alt {α : Type} (first second : Parser Rule α) :
    grammar.run depth (.alt first second) = Run.alt (grammar.run depth first) (grammar.run depth second) := by
  cases depth <;> rfl

@[simp] theorem run_map {α β : Type} (f : α → β) (parser : Parser Rule α) :
    grammar.run depth (.map f parser) = Run.map f (grammar.run depth parser) := by
  cases depth <;> rfl

@[simp] theorem run_bind {α β : Type} (first : Parser Rule α) (next : α → Parser Rule β) :
    grammar.run depth (.bind first next) =
      Run.bind (grammar.run depth first) (fun value => grammar.run depth (next value)) := by
  cases depth <;> rfl

@[simp] theorem run_lazy {α : Type} (supply : Unit → Parser Rule α) :
    grammar.run depth (.lazy supply) = grammar.run depth (supply ()) := by
  cases depth <;> rfl

@[simp] theorem run_many {α : Type} (parser : Parser Rule α) :
    grammar.run depth (.many parser) = Run.many depth (grammar.run depth parser) := by
  cases depth <;> rfl

/-- A rule runs its body one level further down. -/
theorem run_rule {α : Type} (name : Rule α) :
    grammar.run (depth + 1) (.rule name) = grammar.run depth (grammar.body name) := rfl

/-- The rules of a grammar run as before when others are added on top. -/
theorem run_extend {Upper : Type → Type} (count : Nat) (body : ∀ {α : Type}, Upper α → Parser (Both Upper Rule) α)
    {α : Type} (parser : Parser Rule α) :
    (grammar.extend count body).run depth (parser.rename Sum.inr) = grammar.run depth parser := by
  induction depth generalizing α with
  | zero =>
    induction parser with
    | rule name => rfl
    | _ => simp_all [Parser.rename]
  | succ depth ih =>
    induction parser with
    | rule name => exact ih (grammar.body name)
    | _ => simp_all [Parser.rename]

end Grammar

namespace Run

theorem map_eq_some_iff {f : α → β} {run : Run α} {input : Text} {reply : Reply β} :
    Run.map f run input = some reply ↔ ∃ inner, run input = some inner ∧ inner.map f = reply :=
  Option.map_eq_some_iff

theorem bind_eq_some_iff {first : Run α} {next : α → Run β} {input : Text} {reply : Reply β} :
    Run.bind first next input = some reply ↔
      (∃ trace refusal, first input = some ⟨trace, .error refusal⟩ ∧ reply = ⟨trace, .error refusal⟩) ∨
      ∃ trace tail value rest, first input = some ⟨trace, .ok ⟨tail, value⟩⟩ ∧ next value tail = some rest ∧
        reply = rest.after trace := by
  simp only [Run.bind]
  constructor
  · intro ran
    split at ran
    · cases ran
    next trace refusal same =>
      cases ran
      exact .inl ⟨trace, refusal, same, rfl⟩
    next trace tail value same =>
      obtain ⟨rest, continued, rfl⟩ := Option.map_eq_some_iff.mp ran
      exact .inr ⟨trace, tail, value, rest, same, continued, rfl⟩
  · rintro (⟨trace, refusal, same, rfl⟩ | ⟨trace, tail, value, rest, same, continued, rfl⟩)
    · simp only [same]
    · simp only [same, continued, Option.map_some]

theorem alt_eq_some_iff {first second : Run α} {input : Text} {reply : Reply α} :
    Run.alt first second input = some reply ↔
      (∃ trace refusal rest, first input = some ⟨trace, .error refusal⟩ ∧ second input = some rest ∧
        reply = rest.after (trace ++ [.backtracked refusal])) ∨
      ∃ trace success, first input = some ⟨trace, .ok success⟩ ∧ reply = ⟨trace, .ok success⟩ := by
  simp only [Run.alt]
  constructor
  · intro ran
    split at ran
    · cases ran
    next trace refusal same =>
      obtain ⟨rest, continued, rfl⟩ := Option.map_eq_some_iff.mp ran
      exact .inl ⟨trace, refusal, rest, same, continued, rfl⟩
    next trace success same =>
      cases ran
      exact .inr ⟨trace, success, same, rfl⟩
  · rintro (⟨trace, refusal, rest, same, continued, rfl⟩ | ⟨trace, success, same, rfl⟩)
    · simp only [same, continued, Option.map_some]
    · simp only [same]

/-! Runs in sequence. How they are grouped makes no difference to the answer. -/

theorem ret_bind (value : α) (next : α → Run β) : (ret value).bind next = next value := by
  funext input
  exact Option.map_id'

theorem bind_ret (run : Run α) : run.bind ret = run := by
  funext input
  simp only [Run.bind]
  split
  next same => exact same.symm
  next same => exact same.symm
  next same => simp [ret, Reply.after, same]

theorem bind_assoc (run : Run α) (first : α → Run β) (second : β → Run γ) :
    (run.bind first).bind second = run.bind fun value => (first value).bind second := by
  funext input
  simp only [Run.bind]
  rcases run input with _ | ⟨trace, error | ⟨tail, value⟩⟩
  · rfl
  · rfl
  simp only
  rcases first value tail with _ | ⟨later, error | ⟨rest, found⟩⟩
  · rfl
  · rfl
  simp only [Option.map_some, Reply.after]
  cases second found rest <;> simp [Reply.after]

/-- A map is a continuation that reads nothing, so the laws of sequence are its laws too. -/
theorem map_eq_bind (f : α → β) (run : Run α) : Run.map f run = run.bind fun value => ret (f value) := by
  funext input
  simp only [Run.map, Run.bind]
  rcases run input with _ | ⟨trace, error | ⟨tail, value⟩⟩
  · rfl
  · rfl
  · simp [ret, Reply.map, Reply.after, Except.map, Success.mapValue]

theorem map_id (run : Run α) : Run.map id run = run :=
  (map_eq_bind id run).trans (bind_ret run)

theorem map_map (f : α → β) (g : β → γ) (run : Run α) : Run.map g (Run.map f run) = Run.map (g ∘ f) run := by
  simp only [map_eq_bind, bind_assoc, ret_bind, Function.comp]

theorem map_bind (f : β → γ) (run : Run α) (next : α → Run β) :
    Run.map f (run.bind next) = run.bind fun value => Run.map f (next value) := by
  simp only [map_eq_bind, bind_assoc]

theorem bind_map (f : α → β) (run : Run α) (next : β → Run γ) :
    (Run.map f run).bind next = run.bind fun value => next (f value) := by
  simp only [map_eq_bind, bind_assoc, ret_bind]

/-- A function of two values takes the first one where the second run begins. -/
theorem map_seq (f : α → β → γ) (first : Run α) (second : Run β) :
    Run.map (fun (a, b) => f a b) (Run.seq first second) = first.bind fun value => Run.map (f value) second := by
  simp only [Run.seq, map_bind, map_map]
  rfl

/-- Two runs without a value, one behind the other. -/
theorem map_seq_unit (first second : Run Unit) :
    Run.map (fun _ => ()) (Run.seq first second) = first.bind fun _ => second :=
  calc Run.map (fun _ => ()) (Run.seq first second)
    _ = first.bind fun _ => Run.map id second := map_seq (fun _ _ => ()) first second
    _ = first.bind fun _ => second := by rw [map_id]

/-! Where an operation succeeds, its parts have. -/

theorem of_map_ok {f : α → β} {run : Run α} {success : Success β}
    (ran : Run.map f run input = some ⟨trace, .ok success⟩) :
    ∃ found, run input = some ⟨trace, .ok found⟩ ∧ found.mapValue f = success := by
  obtain ⟨⟨earlier, outcome⟩, same, mapped⟩ := map_eq_some_iff.mp ran
  cases outcome with
  | error refusal => cases mapped
  | ok found =>
    cases mapped
    exact ⟨found, same, rfl⟩

theorem of_bind_ok {first : Run α} {next : α → Run β} {success : Success β}
    (ran : Run.bind first next input = some ⟨trace, .ok success⟩) : ∃ earlier found later,
      first input = some ⟨earlier, .ok found⟩ ∧ next found.value found.tail = some ⟨later, .ok success⟩ := by
  rcases bind_eq_some_iff.mp ran with ⟨_, refusal, _, same⟩ | ⟨earlier, tail, value, rest, read, continued, same⟩
  · cases same
  · obtain ⟨later, outcome⟩ := rest
    cases same
    exact ⟨earlier, ⟨tail, value⟩, later, read, continued⟩

theorem of_alt_ok {first second : Run α} {success : Success α}
    (ran : Run.alt first second input = some ⟨trace, .ok success⟩) :
    ∃ part, first input = some ⟨part, .ok success⟩ ∨ second input = some ⟨part, .ok success⟩ := by
  rcases alt_eq_some_iff.mp ran with ⟨_, refusal, rest, _, continued, same⟩ | ⟨part, found, read, same⟩
  · obtain ⟨later, outcome⟩ := rest
    cases same
    exact ⟨_, .inr continued⟩
  · cases same
    exact ⟨trace, .inl read⟩

theorem of_take_ok {expected : CharClass} {success : Success Char}
    (ran : take expected input = some ⟨trace, .ok success⟩) :
    input = success.value :: success.tail ∧ expected.mem success.value = true := by
  cases input with
  | nil => cases ran
  | cons c rest =>
    simp only [take] at ran
    split at ran
    next member =>
      cases ran
      exact ⟨rfl, member⟩
    next => cases ran

end Run

/-- The first value is there where the second parser begins. -/
theorem Grammar.run_map2 (grammar : Grammar Rule) (depth : Nat) (first : Parser Rule α) (second : Parser Rule β)
    (f : α → β → γ) : grammar.run depth (.map2 first second f) =
      Run.bind (grammar.run depth first) fun value => Run.map (f value) (grammar.run depth second) := by
  rw [Parser.map2, run_map, run_seq]
  exact Run.map_seq f _ _

/-- What holds of the elementary runs and is kept by every operation on runs. -/
structure Run.Kept (holds : ∀ {α : Type}, Run α → Prop) : Prop where
  endless : ∀ {α : Type}, holds (fun _ => none : Run α)
  take : ∀ expected, holds (Run.take expected)
  ret : ∀ {α : Type} (value : α), holds (Run.ret value)
  map : ∀ {α β : Type} (f : α → β) {run : Run α}, holds run → holds (Run.map f run)
  bind : ∀ {α β : Type} {first : Run α} {next : α → Run β},
    holds first → (∀ value, holds (next value)) → holds (Run.bind first next)
  alt : ∀ {α : Type} {first second : Run α}, holds first → holds second → holds (Run.alt first second)

namespace Run.Kept

variable {holds : ∀ {α : Type}, Run α → Prop} (kept : Run.Kept holds)
include kept

theorem seq {first : Run α} {second : Run β} (left : holds first) (right : holds second) :
    holds (Run.seq first second) :=
  kept.bind left fun _ => kept.map _ right

theorem many {run : Run α} (item : holds run) (limit : Nat) : holds (Run.many limit run) := by
  induction limit with
  | zero => exact kept.endless
  | succ limit ih => exact kept.alt (kept.map _ (kept.seq item ih)) (kept.ret [])

theorem interpret {call : ∀ {α : Type}, Rule α → Run α} (called : ∀ {α : Type} (name : Rule α), holds (call name))
    (limit : Nat) (parser : Parser Rule α) : holds (parser.interpret call limit) := by
  induction parser with
  | take expected => exact kept.take expected
  | ret value => exact kept.ret value
  | seq first second left right => exact kept.seq left right
  | alt first second left right => exact kept.alt left right
  | map f parser ih => exact kept.map f ih
  | bind first next left right => exact kept.bind left right
  | lazy supply ih => exact ih ()
  | rule name => exact called name
  | many parser ih => exact kept.many ih limit

/-- The induction is on the depth, for all rules of the grammar at once: a rule's body
only calls rules at a smaller depth. -/
theorem run (grammar : Grammar Rule) (depth : Nat) (parser : Parser Rule α) : holds (grammar.run depth parser) := by
  induction depth generalizing α with
  | zero => exact kept.interpret (fun _ => kept.endless) 0 parser
  | succ depth ih => exact kept.interpret (fun name => ih (grammar.body name)) (depth + 1) parser

end Run.Kept
end Backtrack
