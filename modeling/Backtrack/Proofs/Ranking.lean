import Backtrack.Proofs.DepthIndependence
import Backtrack.Proofs.SuffixDiscipline
import Backtrack.Repetition
import Mathlib.Logic.Relation

/-! Which grammars come to an end. It can be read off the rules: each rule has a rank, and
before its body has read anything it calls rules of smaller rank only. A parser that is
repeated must read something each time. Then every call within a run has less text or less
rank, and a depth that grows with the text is enough. -/

namespace Backtrack

variable {Rule : Type → Type}

/-! ## What is seen in a parser -/

namespace Parser

/-- Every success takes a character, if that is so of the given rules. -/
def Consuming (taking : ∀ {α : Type}, Rule α → Prop) : ∀ {α : Type}, Parser Rule α → Prop
  | _, .take _ => True
  | _, .ret _ => False
  | _, .seq first second => Consuming taking first ∨ Consuming taking second
  | _, .alt first second => Consuming taking first ∧ Consuming taking second
  | _, .map _ parser => Consuming taking parser
  | _, .bind first next => Consuming taking first ∨ ∀ value, Consuming taking (next value)
  | _, .lazy supply => Consuming taking (supply ())
  | _, .rule name => taking name
  | _, .many _ => False

/-- As long as nothing has been read, only the allowed rules are called. -/
def Opening (taking allowed : ∀ {α : Type}, Rule α → Prop) : ∀ {α : Type}, Parser Rule α → Prop
  | _, .take _ => True
  | _, .ret _ => True
  | _, .seq first second =>
    Opening taking allowed first ∧ (Consuming taking first ∨ Opening taking allowed second)
  | _, .alt first second => Opening taking allowed first ∧ Opening taking allowed second
  | _, .map _ parser => Opening taking allowed parser
  | _, .bind first next =>
    Opening taking allowed first ∧ (Consuming taking first ∨ ∀ value, Opening taking allowed (next value))
  | _, .lazy supply => Opening taking allowed (supply ())
  | _, .rule name => allowed name
  | _, .many parser => Opening taking allowed parser

/-- What is repeated in the parser takes a character each time. -/
def Repeating (taking : ∀ {α : Type}, Rule α → Prop) : ∀ {α : Type}, Parser Rule α → Prop
  | _, .take _ => True
  | _, .ret _ => True
  | _, .seq first second => Repeating taking first ∧ Repeating taking second
  | _, .alt first second => Repeating taking first ∧ Repeating taking second
  | _, .map _ parser => Repeating taking parser
  | _, .bind first next => Repeating taking first ∧ ∀ value, Repeating taking (next value)
  | _, .lazy supply => Repeating taking (supply ())
  | _, .rule _ => True
  | _, .many parser => Consuming taking parser ∧ Repeating taking parser

variable {taking : ∀ {α : Type}, Rule α → Prop}

theorem Repeating.part {part : Parser Rule β} {whole : Parser Rule α} (isPart : Part part whole)
    (repeating : whole.Repeating taking) : part.Repeating taking := by
  induction isPart with
  | whole => exact repeating
  | seqFirst _ ih | altFirst _ ih | bindFirst _ ih => exact ih repeating.1
  | seqSecond _ ih | altSecond _ ih | many _ ih => exact ih repeating.2
  | map _ ih | lazy _ ih => exact ih repeating
  | bindNext value _ ih => exact ih (repeating.2 value)

/-! Other rules under the same parser are seen in the same way. -/

variable {Other : Type → Type} {rename : ∀ {α : Type}, Other α → Rule α}

theorem consuming_rename (parser : Parser Other α) :
    (parser.rename rename).Consuming taking ↔ parser.Consuming (fun name => taking (rename name)) := by
  induction parser with
  | take | ret | rule | many => exact Iff.rfl
  | seq first second left right => exact or_congr left right
  | alt first second left right => exact and_congr left right
  | map f parser ih => exact ih
  | bind first next left right => exact or_congr left (forall_congr' right)
  | lazy supply ih => exact ih ()

theorem opening_rename {allowed : ∀ {α : Type}, Rule α → Prop} (parser : Parser Other α) :
    (parser.rename rename).Opening taking allowed ↔
      parser.Opening (fun name => taking (rename name)) (fun name => allowed (rename name)) := by
  induction parser with
  | take | ret | rule => exact Iff.rfl
  | seq first second left right => exact and_congr left (or_congr (consuming_rename first) right)
  | alt first second left right => exact and_congr left right
  | map f parser ih | many parser ih => exact ih
  | bind first next left right => exact and_congr left (or_congr (consuming_rename first) (forall_congr' right))
  | lazy supply ih => exact ih ()

theorem repeating_rename (parser : Parser Other α) :
    (parser.rename rename).Repeating taking ↔ parser.Repeating (fun name => taking (rename name)) := by
  induction parser with
  | take | ret | rule => exact Iff.rfl
  | seq first second left right | alt first second left right => exact and_congr left right
  | map f parser ih => exact ih
  | bind first next left right => exact and_congr left (forall_congr' right)
  | lazy supply ih => exact ih ()
  | many parser ih => exact and_congr (consuming_rename parser) ih

end Parser

/-! ## What follows for its runs -/

namespace Run

theorem consumes_take (expected : CharClass) : (take expected).Consumes := by
  intro input trace success ran
  rw [(of_take_ok ran).1]
  exact Nat.lt_succ_self _

theorem Consumes.map (f : α → β) {run : Run α} (consumes : run.Consumes) : (Run.map f run).Consumes := by
  intro input trace success ran
  obtain ⟨found, read, rfl⟩ := of_map_ok ran
  exact consumes input trace found read

/-- One of two runs in a row takes something, and the other puts nothing back. -/
theorem consumes_bind {first : Run α} {next : α → Run β} (leaves : first.LeavesSuffix)
    (leavesNext : ∀ value, (next value).LeavesSuffix) (either : first.Consumes ∨ ∀ value, (next value).Consumes) :
    (Run.bind first next).Consumes := by
  intro input trace success ran
  obtain ⟨earlier, found, later, read, continued⟩ := of_bind_ok ran
  have behind := (leaves input earlier found read).length_le
  have further := (leavesNext found.value found.tail later success continued).length_le
  rcases either with consumes | consumes
  · exact Nat.lt_of_le_of_lt further (consumes input earlier found read)
  · exact Nat.lt_of_lt_of_le (consumes found.value found.tail later success continued) behind

theorem Consumes.alt {first second : Run α} (left : first.Consumes) (right : second.Consumes) :
    (Run.alt first second).Consumes := by
  intro input trace success ran
  obtain ⟨part, read | read⟩ := of_alt_ok ran
  · exact left input part success read
  · exact right input part success read

/-- The run answers on this input. -/
def Ends (run : Run α) (input : Text) : Prop := ∃ reply, run input = some reply

theorem ends_take (expected : CharClass) (input : Text) : (take expected).Ends input := by
  cases input with
  | nil => exact ⟨_, rfl⟩
  | cons c rest =>
    simp only [Ends, take]
    split
    · exact ⟨_, rfl⟩
    · exact ⟨_, rfl⟩

theorem Ends.map (f : α → β) {run : Run α} (ends : run.Ends input) : (Run.map f run).Ends input := by
  obtain ⟨reply, ran⟩ := ends
  exact ⟨_, map_eq_some_iff.mpr ⟨reply, ran, rfl⟩⟩

theorem Ends.bind {first : Run α} {next : α → Run β} (left : first.Ends input)
    (right : ∀ trace success, first input = some ⟨trace, .ok success⟩ → (next success.value).Ends success.tail) :
    (Run.bind first next).Ends input := by
  obtain ⟨⟨trace, outcome⟩, ran⟩ := left
  cases outcome with
  | error refusal => exact ⟨_, bind_eq_some_iff.mpr (.inl ⟨trace, refusal, ran, rfl⟩)⟩
  | ok success =>
    obtain ⟨rest, continued⟩ := right trace success ran
    exact ⟨_, bind_eq_some_iff.mpr (.inr ⟨trace, success.tail, success.value, rest, ran, continued, rfl⟩)⟩

theorem Ends.seq {first : Run α} {second : Run β} (left : first.Ends input)
    (right : ∀ trace success, first input = some ⟨trace, .ok success⟩ → second.Ends success.tail) :
    (Run.seq first second).Ends input :=
  left.bind fun trace success read => (right trace success read).map _

theorem Ends.alt {first second : Run α} (left : first.Ends input)
    (right : (∃ trace refusal, first input = some ⟨trace, .error refusal⟩) → second.Ends input) :
    (Run.alt first second).Ends input := by
  obtain ⟨⟨trace, outcome⟩, ran⟩ := left
  cases outcome with
  | error refusal =>
    obtain ⟨rest, continued⟩ := right ⟨trace, refusal, ran⟩
    exact ⟨_, alt_eq_some_iff.mpr (.inl ⟨trace, refusal, rest, ran, continued, rfl⟩)⟩
  | ok success => exact ⟨_, alt_eq_some_iff.mpr (.inr ⟨trace, success, ran, rfl⟩)⟩

/-- A repetition ends if each attempt does, as far as there are rounds for all of the text. -/
theorem ends_many {κ : Type u} {answered : κ → Prop} {run : Run α} {collect : Text → List κ} {limit rounds : Nat}
    (consumes : run.Consumes)
    (attempt : ∀ {input}, input.length < limit → (∀ item ∈ collect input, answered item) → run.Ends input)
    {input : Text} (room : input.length < rounds) (within : rounds ≤ limit)
    (all : ∀ item ∈ run.onAttempts collect rounds input, answered item) : (Run.many rounds run).Ends input := by
  induction rounds generalizing input with
  | zero => exact absurd room (Nat.not_lt_zero _)
  | succ rounds ih =>
    have now := attempt (Nat.lt_of_lt_of_le room within) fun item member => all item (List.mem_append_left _ member)
    have others : (Run.seq run (Run.many rounds run)).Ends input := by
      refine now.seq fun trace success read => ?_
      have shorter := consumes input trace success read
      refine ih (by omega) (by omega) fun item member => all item ?_
      exact List.mem_append_right _ (mem_onSuccess read member)
    exact (others.map _).alt fun _ => ⟨_, rfl⟩

end Run

namespace Parser

variable {taking : ∀ {α : Type}, Rule α → Prop} {call : ∀ {α : Type}, Rule α → Run α}

/-- The rules that are called never leave their input, and where that is said of them they take
a character. -/
structure LawfulCalls (taking : ∀ {α : Type}, Rule α → Prop) (call : ∀ {α : Type}, Rule α → Run α) : Prop where
  leaves : ∀ {α : Type} (name : Rule α), Run.LeavesSuffix (call name)
  takes : ∀ {α : Type} {name : Rule α}, taking name → Run.Consumes (call name)

theorem Consuming.consumes (lawful : LawfulCalls taking call) (limit : Nat) {parser : Parser Rule α}
    (consuming : parser.Consuming taking) : Run.Consumes (parser.interpret call limit) := by
  have suffix {β : Type} (part : Parser Rule β) := part.interpret_leavesSuffix lawful.leaves limit
  induction parser with
  | take expected => exact Run.consumes_take expected
  | ret value => cases consuming
  | seq first second left right =>
    exact Run.consumes_bind (suffix first) (fun _ => (suffix second).map _)
      (consuming.imp left fun second _ => (right second).map _)
  | alt first second left right => exact (left consuming.1).alt (right consuming.2)
  | map f parser ih => exact (ih consuming).map f
  | bind first next left right =>
    exact Run.consumes_bind (suffix first) (fun value => suffix (next value))
      (consuming.imp left fun next value => right value (next value))
  | lazy supply ih => exact ih () consuming
  | rule name => exact lawful.takes consuming
  | many parser ih => cases consuming

/-- Behind a part that takes a character any rule may be called, and behind another part those
that may be called at once. -/
theorem LawfulCalls.behind (lawful : LawfulCalls taking call) {allowed : ∀ {α : Type}, Rule α → Prop} {limit : Nat}
    {first : Parser Rule α} {second : Parser Rule β} {input : Text} {trace : Trace} {success : Success α}
    (read : first.interpret call limit input = some ⟨trace, .ok success⟩)
    (either : first.Consuming taking ∨
      ∀ inner ∈ second.calls call limit success.tail, inner.input.length < success.tail.length ∨ allowed inner.rule) :
    ∀ inner ∈ second.calls call limit success.tail, inner.input.length < input.length ∨ allowed inner.rule := by
  intro inner member
  rcases either with consuming | opening
  · have shorter := consuming.consumes lawful limit input trace success read
    have further := (calls_suffix lawful.leaves second success.tail inner member).length_le
    exact .inl (Nat.lt_of_le_of_lt further shorter)
  · have left := (first.interpret_leavesSuffix lawful.leaves limit input trace success read).length_le
    exact (opening inner member).imp_left fun shorter => Nat.lt_of_lt_of_le shorter left

/-- A call comes after a character that was read, or it is one of those that are allowed. -/
theorem Opening.calls {allowed : ∀ {α : Type}, Rule α → Prop} (lawful : LawfulCalls taking call) (limit : Nat)
    {parser : Parser Rule α} (opening : parser.Opening taking allowed) (input : Text) :
    ∀ inner ∈ parser.calls call limit input, inner.input.length < input.length ∨ allowed inner.rule := by
  induction parser generalizing input with
  | take | ret => exact fun _ member => absurd member List.not_mem_nil
  | seq first second left right =>
    exact Run.forall_mem_onSuccess (left opening.1 input) fun trace success read =>
      lawful.behind read (opening.2.imp_right fun opening => right opening success.tail)
  | alt first second left right => exact Run.forall_mem_onRefusal (left opening.1 input) (right opening.2 input)
  | map f parser ih => exact ih opening input
  | bind first next left right =>
    exact Run.forall_mem_onSuccess (left opening.1 input) fun trace success read =>
      lawful.behind read (opening.2.imp_right fun opening => right success.value (opening success.value) success.tail)
  | lazy supply ih => exact ih () opening input
  | rule name =>
    intro inner member
    rw [List.mem_singleton.mp member]
    exact .inr opening
  | many parser ih =>
    refine Run.forall_mem_onAttempts
      (fun start (inner : Call Rule) => inner.input.length < start.length ∨ allowed inner.rule)
      (parser.interpret_leavesSuffix lawful.leaves limit) ?_ (ih opening) limit input
    exact fun tail input inner behind found =>
      found.imp_left fun shorter => Nat.lt_of_lt_of_le shorter behind.length_le

/-- A parser comes to an end where all calls that it makes do, if the limit on its repetitions
is above the length of the text. -/
theorem Repeating.ends (lawful : LawfulCalls taking call) {limit : Nat} {parser : Parser Rule α}
    (repeating : parser.Repeating taking) {input : Text} (room : input.length < limit)
    (answered : ∀ inner ∈ parser.calls call limit input, Run.Ends (call inner.rule) inner.input) :
    Run.Ends (parser.interpret call limit) input := by
  have suffix {β : Type} (part : Parser Rule β) := part.interpret_leavesSuffix lawful.leaves limit
  induction parser generalizing input with
  | take expected => exact Run.ends_take expected input
  | ret value => exact ⟨_, rfl⟩
  | seq first second left right =>
    refine (left repeating.1 room fun inner member => answered inner (List.mem_append_left _ member)).seq ?_
    intro trace success read
    have behind := (suffix first input trace success read).length_le
    refine right repeating.2 (Nat.lt_of_le_of_lt behind room) fun inner member => answered inner ?_
    exact List.mem_append_right _ (Run.mem_onSuccess read member)
  | alt first second left right =>
    refine (left repeating.1 room fun inner member => answered inner (List.mem_append_left _ member)).alt ?_
    rintro ⟨trace, refusal, refused⟩
    refine right repeating.2 room fun inner member => answered inner ?_
    exact List.mem_append_right _ (Run.mem_onRefusal refused member)
  | map f parser ih => exact (ih repeating room answered).map f
  | bind first next left right =>
    refine (left repeating.1 room fun inner member => answered inner (List.mem_append_left _ member)).bind ?_
    intro trace success read
    have behind := (suffix first input trace success read).length_le
    refine right success.value (repeating.2 success.value) (Nat.lt_of_le_of_lt behind room)
      fun inner member => answered inner ?_
    exact List.mem_append_right _ (Run.mem_onSuccess read member)
  | lazy supply ih => exact ih () repeating room answered
  | rule name => exact answered ⟨name, input⟩ List.mem_cons_self
  | many parser ih =>
    have consumes := repeating.1.consumes lawful limit
    exact Run.ends_many consumes (fun room answered => ih repeating.2 room answered) room (Nat.le_refl limit) answered

end Parser

/-! ## Grammars -/

/-- A rank for each rule, below the number of rules. Before its body has read anything it calls
rules of smaller rank only, and whatever it repeats takes a character each time. -/
structure Grammar.Ranking (grammar : Grammar Rule) where
  rank : ∀ {α : Type}, Rule α → Nat
  /-- The rules of which every success takes a character. -/
  taking : ∀ {α : Type}, Rule α → Prop
  rank_lt : ∀ {α : Type} (name : Rule α), rank name < grammar.count
  consuming : ∀ {α : Type} (name : Rule α), taking name → (grammar.body name).Consuming taking
  opening : ∀ {α : Type} (name : Rule α), (grammar.body name).Opening taking fun inner => rank inner < rank name
  repeating : ∀ {α : Type} (name : Rule α), (grammar.body name).Repeating taking

namespace Grammar

/-- The parser answers on every input, and no depth from the limit on changes the answer. Each
success of what it repeats takes a character. -/
structure Terminates (grammar : Grammar Rule) (parser : Parser Rule α) : Prop where
  answers : ∀ input, ∃ reply, ∀ depth, grammar.limit input ≤ depth → grammar.run depth parser input = some reply
  consumes : ∀ {β : Type} {item : Parser Rule β}, Parser.Part (.many item) parser →
    ∀ depth, Run.Consumes (grammar.run depth item)

theorem Terminates.exists_reply {grammar : Grammar Rule} {parser : Parser Rule α}
    (terminates : grammar.Terminates parser) (input : Text) : ∃ reply, grammar.apply parser input = some reply := by
  obtain ⟨reply, settled⟩ := terminates.answers input
  exact ⟨reply, settled _ (Nat.le_refl _)⟩

/-- The limit on the depth is enough, so it decides nothing. -/
theorem Terminates.apply_eq_some_iff {grammar : Grammar Rule} {parser : Parser Rule α}
    (terminates : grammar.Terminates parser) {input : Text} {reply : Reply α} :
    grammar.apply parser input = some reply ↔ grammar.Answers parser input reply := by
  constructor
  · exact fun ran => ⟨_, ran⟩
  · intro answers
    obtain ⟨other, applied⟩ := terminates.exists_reply input
    rw [applied, answers.unique ⟨_, applied⟩]

/-- Every rule and its body terminate. Within its own run a rule is entered again only on a
shorter suffix of its input. -/
structure RulesTerminate (grammar : Grammar Rule) : Prop where
  reentered : ∀ {α : Type} (name : Rule α) (outer inner : Text),
    Relation.TransGen grammar.Enters ⟨name, outer⟩ ⟨name, inner⟩ → inner <:+ outer ∧ inner.length < outer.length
  rule : ∀ {α : Type} (name : Rule α), grammar.Terminates (.rule name)
  body : ∀ {α : Type} (name : Rule α), grammar.Terminates (grammar.body name)

namespace Ranking

variable {grammar : Grammar Rule} (ranking : grammar.Ranking)
include ranking

/-- The induction is on the depth: the rules that are called take a character one level down. -/
theorem consumes (depth : Nat) {parser : Parser Rule α} (consuming : parser.Consuming ranking.taking) :
    Run.Consumes (grammar.run depth parser) := by
  induction depth generalizing α with
  | zero => exact consuming.consumes ⟨fun _ => Run.leavesSuffix_kept.endless, fun _ _ _ _ ran => nomatch ran⟩ 0
  | succ depth ih =>
    exact consuming.consumes ⟨fun name => grammar.run_leavesSuffix depth (grammar.body name),
      fun takes => ih (ranking.consuming _ takes)⟩ (depth + 1)

theorem lawful (depth : Nat) :
    Parser.LawfulCalls ranking.taking fun name rest => grammar.run depth (grammar.body name) rest where
  leaves := fun name => grammar.run_leavesSuffix depth (grammar.body name)
  takes := fun taking => ranking.consumes depth (ranking.consuming _ taking)

/-- Every call within the run of a rule has less text, or as much and less rank. -/
theorem enters {outer inner : Call Rule} (enters : grammar.Enters outer inner) : inner.input <:+ outer.input ∧
    (inner.input.length < outer.input.length ∨ ranking.rank inner.rule < ranking.rank outer.rule) := by
  obtain ⟨depth, member⟩ := enters
  have lawful := ranking.lawful depth
  exact ⟨Parser.calls_suffix lawful.leaves _ _ inner member,
    (ranking.opening outer.rule).calls lawful (depth + 1) outer.input inner member⟩

theorem reenters {outer inner : Call Rule} (enters : Relation.TransGen grammar.Enters outer inner) :
    inner.input <:+ outer.input ∧
      (inner.input.length < outer.input.length ∨ ranking.rank inner.rule < ranking.rank outer.rule) := by
  induction enters with
  | single once => exact ranking.enters once
  | tail before once ih =>
    obtain ⟨suffix, less⟩ := ih
    obtain ⟨further, still⟩ := ranking.enters once
    have lengths := further.length_le
    have longer := suffix.length_le
    refine ⟨further.trans suffix, ?_⟩
    omega

/-- A depth that is enough for the body of a rule. The text counts for more than the rank. -/
def cost (call : Call Rule) : Nat :=
  (grammar.count + 1) * call.input.length + ranking.rank call.rule + 1

theorem length_lt_cost (call : Call Rule) : call.input.length < ranking.cost call := by
  have product : call.input.length ≤ (grammar.count + 1) * call.input.length :=
    Nat.le_mul_of_pos_left _ (Nat.succ_pos _)
  unfold cost
  omega

theorem cost_lt {outer inner : Call Rule} (short : inner.input.length ≤ outer.input.length)
    (less : inner.input.length < outer.input.length ∨ ranking.rank inner.rule < ranking.rank outer.rule) :
    ranking.cost inner < ranking.cost outer := by
  have bound := ranking.rank_lt inner.rule
  have product := Nat.mul_le_mul_left (grammar.count + 1) short
  unfold cost
  rcases less with shorter | lower
  · have further := Nat.mul_le_mul_left (grammar.count + 1) (Nat.succ_le_of_lt shorter)
    rw [Nat.mul_succ] at further
    omega
  · omega

theorem cost_lt_limit {call : Call Rule} {input : Text} (short : call.input.length ≤ input.length) :
    ranking.cost call < grammar.limit input := by
  have bound := ranking.rank_lt call.rule
  have product := Nat.mul_le_mul_left (grammar.count + 1) short
  unfold cost limit
  rw [Nat.mul_add]
  omega

/-- The induction is on the depth: each call costs less than the body that makes it. -/
theorem body_ends (depth : Nat) (call : Call Rule) (enough : ranking.cost call ≤ depth) :
    Run.Ends (grammar.run depth (grammar.body call.rule)) call.input := by
  induction depth generalizing call with
  | zero => exact absurd enough (Nat.not_succ_le_zero _)
  | succ depth ih =>
    have lawful := ranking.lawful depth
    have room : call.input.length < depth + 1 := Nat.lt_of_lt_of_le (ranking.length_lt_cost call) enough
    refine (ranking.repeating call.rule).ends lawful room fun inner member => ih inner ?_
    have short := (Parser.calls_suffix lawful.leaves (grammar.body call.rule) call.input inner member).length_le
    have less := (ranking.opening call.rule).calls lawful (depth + 1) call.input inner member
    exact Nat.le_of_lt_succ (Nat.lt_of_lt_of_le (ranking.cost_lt short less) enough)

theorem run_ends {parser : Parser Rule α} (repeating : parser.Repeating ranking.taking) (input : Text) :
    Run.Ends (grammar.run (grammar.limit input) parser) input := by
  -- The limit is not zero, so the rules that are called have a depth of their own.
  obtain ⟨depth, limit⟩ : ∃ depth, grammar.limit input = depth + 1 :=
    Nat.exists_eq_succ_of_ne_zero (Nat.mul_ne_zero (Nat.succ_ne_zero _) (Nat.succ_ne_zero _))
  have room := grammar.length_lt_limit input
  rw [limit] at room ⊢
  have lawful := ranking.lawful depth
  refine repeating.ends lawful room fun inner member => ranking.body_ends depth inner ?_
  have short := (Parser.calls_suffix lawful.leaves parser input inner member).length_le
  have cheap := ranking.cost_lt_limit short
  rw [limit] at cheap
  exact Nat.le_of_lt_succ cheap

theorem terminates {parser : Parser Rule α} (repeating : parser.Repeating ranking.taking) :
    grammar.Terminates parser where
  answers := by
    intro input
    obtain ⟨reply, ran⟩ := ranking.run_ends repeating input
    exact ⟨reply, fun depth enough => grammar.run_within enough parser input reply ran⟩
  consumes := fun isPart depth => ranking.consumes depth (repeating.part isPart).1

theorem rulesTerminate : grammar.RulesTerminate where
  reentered := by
    intro α name outer inner again
    obtain ⟨suffix, less⟩ := ranking.reenters again
    exact ⟨suffix, less.resolve_right (Nat.lt_irrefl _)⟩
  rule := fun _ => ranking.terminates trivial
  body := fun name => ranking.terminates (ranking.repeating name)

end Ranking
end Grammar
end Backtrack
