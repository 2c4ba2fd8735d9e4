import Backtrack.Alternatives
import Backtrack.Parser.Derived
import Backtrack.Proofs.DepthIndependence

/-! Choices of any number of alternatives. Where a nested choice is the first alternative of
another one, its own refusal is that of its last alternative, so each refusal is given up
once, wherever the brackets are. -/

namespace Backtrack

variable {Rule : Type → Type} {α : Type} {input : Text}

theorem Bracketing.items_ne_nil (bracketing : Bracketing β) : bracketing.items ≠ [] := by
  induction bracketing with
  | single item => exact List.cons_ne_nil item []
  | joined left right left_ih _ => exact List.append_ne_nil_of_left_ne_nil left_ih _

/-- Further alternatives are added around what is there. -/
theorem Bracketing.exists_choice (bracketing : Bracketing (Parser Rule α)) (others : List (Parser Rule α)) :
    ∃ whole : Bracketing (Parser Rule α), whole.items = bracketing.items ++ others ∧
      whole.alternatives = .choice bracketing.alternatives others := by
  induction others generalizing bracketing with
  | nil => exact ⟨bracketing, (List.append_nil _).symm, rfl⟩
  | cons parser others ih =>
    obtain ⟨whole, items, alternatives⟩ := ih (.joined bracketing (.single parser))
    exact ⟨whole, items.trans (List.append_assoc ..), alternatives⟩

/-! ## The first run that succeeds -/

namespace FirstOf

variable {run : Run α} {left right runs : List (Run α)} {reply rest : Reply α}

theorem single_iff : FirstOf input [run] reply ↔ run input = some reply := by
  constructor
  · intro first
    cases first with
    | found read => exact read
    | last refused => exact refused
    | next _ later => cases later
  · intro ran
    obtain ⟨trace, refusal | success⟩ := reply
    · exact .last ran
    · exact .found ran

theorem append_found (first : FirstOf input left reply) (succeeds : reply.outcome = .ok success) :
    FirstOf input (left ++ right) reply := by
  induction first with
  | found read => exact .found read
  | last refused => cases succeeds
  | next refused later ih => exact .next refused (ih succeeds)

theorem append_refused (first : FirstOf input left reply) (refused : reply.outcome = .error refusal)
    (others : FirstOf input right rest) :
    FirstOf input (left ++ right) (rest.after (reply.trace ++ [.backtracked refusal])) := by
  induction first with
  | found read => cases refused
  | last last =>
    cases refused
    exact .next last others
  | @next run runs trace earlier reply given later ih =>
    have continued := FirstOf.next given (ih refused)
    simpa [Reply.after] using continued

/-- The runs of a list are tried like a choice between its two parts. -/
theorem append_iff (some_left : left ≠ []) (some_right : right ≠ []) :
    FirstOf input (left ++ right) reply ↔
      (∃ trace refusal rest, FirstOf input left ⟨trace, .error refusal⟩ ∧ FirstOf input right rest ∧
        reply = rest.after (trace ++ [.backtracked refusal])) ∨
      ∃ trace success, FirstOf input left ⟨trace, .ok success⟩ ∧ reply = ⟨trace, .ok success⟩ := by
  constructor
  · intro first
    induction left generalizing reply with
    | nil => exact absurd rfl some_left
    | cons run left ih =>
      -- There is a run behind this one, so it is not the last.
      obtain ⟨other, behind, followed⟩ := List.exists_cons_of_ne_nil (List.append_ne_nil_of_right_ne_nil left some_right)
      rw [List.cons_append, followed] at first
      cases first with
      | found read => exact .inr ⟨_, _, .found read, rfl⟩
      | @next _ _ trace refusal later refused others =>
        rw [← followed] at others
        cases left with
        | nil => exact .inl ⟨trace, refusal, later, .last refused, others, rfl⟩
        | cons second left =>
          rcases ih (List.cons_ne_nil _ _) others with ⟨own, given, rest, ended, continued, rfl⟩ | ⟨own, success, ended, rfl⟩
          · exact .inl ⟨_, given, rest, .next refused ended, continued, by simp [Reply.after]⟩
          · exact .inr ⟨_, success, .next refused ended, rfl⟩
  · rintro (⟨trace, refusal, rest, first, others, rfl⟩ | ⟨trace, success, first, rfl⟩)
    · exact first.append_refused rfl others
    · exact first.append_found rfl

end FirstOf

/-- At every depth a choice runs like the list of its alternatives. The induction is on the
brackets, and the recorded refusal of a nested choice is that of its last alternative. -/
theorem Grammar.run_alternatives_iff {grammar : Grammar Rule} {depth : Nat} {bracketing : Bracketing (Parser Rule α)}
    {reply : Reply α} : grammar.run depth bracketing.alternatives input = some reply ↔
      FirstOf input (bracketing.items.map (grammar.run depth)) reply := by
  induction bracketing generalizing reply with
  | single parser => exact FirstOf.single_iff.symm
  | joined left right left_ih right_ih =>
    have some_left : left.items.map (grammar.run depth) ≠ [] := by simp [left.items_ne_nil]
    have some_right : right.items.map (grammar.run depth) ≠ [] := by simp [right.items_ne_nil]
    rw [Bracketing.alternatives, run_alt, Run.alt_eq_some_iff, Bracketing.items, List.map_append,
      FirstOf.append_iff some_left some_right]
    simp only [left_ih, right_ih]

/-! ## Alternatives that are given up -/

/-- An alternative that was refused, with what its own run had recorded. -/
structure GivenUp (Rule : Type → Type) (α : Type) where
  parser : Parser Rule α
  trace : Trace
  refusal : Refusal

namespace GivenUp

def reply (given : GivenUp Rule α) : Reply α := ⟨given.trace, .error given.refusal⟩

/-- Its records, and the one of the retreat. -/
def records (given : GivenUp Rule α) : Trace := given.trace ++ [.backtracked given.refusal]

end GivenUp

namespace Grammar

variable {grammar : Grammar Rule} {depth : Nat} {reply own : Reply α} {parser : Parser Rule α}
  {parsers : List (Parser Rule α)} {earlier : List (GivenUp Rule α)}

theorem firstOf_behind (refused : ∀ given ∈ earlier, grammar.run depth given.parser input = some given.reply)
    (first : FirstOf input (parsers.map (grammar.run depth)) reply) :
    FirstOf input ((earlier.map GivenUp.parser ++ parsers).map (grammar.run depth))
      (reply.after (earlier.flatMap GivenUp.records)) := by
  induction earlier with
  | nil => exact first
  | cons given earlier ih =>
    have others := ih fun other member => refused other (List.mem_cons_of_mem _ member)
    simpa [Reply.after, GivenUp.records] using FirstOf.next (refused given List.mem_cons_self) others

theorem exists_decider_of_firstOf (first : FirstOf input (parsers.map (grammar.run depth)) reply) :
    ∃ (earlier : List (GivenUp Rule α)) (parser : Parser Rule α) (later : List (Parser Rule α)) (own : Reply α),
      parsers = earlier.map GivenUp.parser ++ parser :: later ∧
      (∀ given ∈ earlier, grammar.run depth given.parser input = some given.reply) ∧
      grammar.run depth parser input = some own ∧ (later = [] ∨ ∃ success, own.outcome = .ok success) ∧
      reply = own.after (earlier.flatMap GivenUp.records) := by
  generalize same : parsers.map (grammar.run depth) = runs at first
  induction first generalizing parsers with
  | found read =>
    obtain ⟨parser, later, rfl, rfl, rfl⟩ := List.map_eq_cons_iff.mp same
    exact ⟨[], parser, later, _, rfl, nofun, read, .inr ⟨_, rfl⟩, rfl⟩
  | last refused =>
    obtain ⟨parser, rfl, rfl⟩ := List.map_eq_singleton_iff.mp same
    exact ⟨[], parser, [], _, rfl, nofun, refused, .inl rfl, rfl⟩
  | @next _ _ trace refusal _ refused _ ih =>
    obtain ⟨given, others, rfl, rfl, rest⟩ := List.map_eq_cons_iff.mp same
    obtain ⟨earlier, parser, later, own, rfl, all, ran, decides, rfl⟩ := ih rest
    refine ⟨⟨given, trace, refusal⟩ :: earlier, parser, later, own, rfl, ?_, ran, decides, ?_⟩
    · exact List.forall_mem_cons.mpr ⟨refused, all⟩
    · simp [Reply.after, GivenUp.records]

/-- Some depth is enough for all that was given up and for the alternative behind it. -/
theorem Answers.common_depth (refused : ∀ given ∈ earlier, grammar.Answers given.parser input given.reply)
    (answers : grammar.Answers parser input own) :
    ∃ depth, (∀ given ∈ earlier, grammar.run depth given.parser input = some given.reply) ∧
      grammar.run depth parser input = some own := by
  induction earlier with
  | nil =>
    obtain ⟨depth, ran⟩ := answers
    exact ⟨depth, nofun, ran⟩
  | cons given earlier ih =>
    obtain ⟨⟨depth, first⟩, others⟩ := List.forall_mem_cons.mp refused
    obtain ⟨deeper, all, ran⟩ := ih others
    have deepened {parser : Parser Rule α} {reply : Reply α} (ran : grammar.run deeper parser input = some reply) :
        grammar.run (max depth deeper) parser input = some reply :=
      grammar.run_within (Nat.le_max_right depth deeper) parser input reply ran
    refine ⟨max depth deeper, List.forall_mem_cons.mpr ⟨?_, fun other member => deepened (all other member)⟩, deepened ran⟩
    exact grammar.run_within (Nat.le_max_left depth deeper) given.parser input given.reply first

end Grammar

/-- In a choice of any number of alternatives, however it is nested, the first one that succeeds
decides, or else the last one. The others before it are given up in their order: each one
leaves the records of its own run and one retreat, with its own refusal. All of them run
on the input of the choice. A choice that associates to the left is one such nesting. -/
theorem first_alternative_decides {Rule : Type → Type} {α : Type} (grammar : Grammar Rule) :
    (∀ (bracketing : Bracketing (Parser Rule α)) (input : Text) (reply : Reply α),
      grammar.Answers bracketing.alternatives input reply ↔
        ∃ (earlier : List (GivenUp Rule α)) (parser : Parser Rule α) (later : List (Parser Rule α)) (own : Reply α),
          bracketing.items = earlier.map GivenUp.parser ++ parser :: later ∧
          (∀ given ∈ earlier, grammar.Answers given.parser input ⟨given.trace, .error given.refusal⟩) ∧
          grammar.Answers parser input own ∧ (later = [] ∨ ∃ success, own.outcome = .ok success) ∧
          reply = ⟨earlier.flatMap (fun given => given.trace ++ [.backtracked given.refusal]) ++ own.trace, own.outcome⟩) ∧
    ∀ (first : Parser Rule α) (others : List (Parser Rule α)), ∃ bracketing : Bracketing (Parser Rule α),
      bracketing.items = first :: others ∧ bracketing.alternatives = .choice first others := by
  refine ⟨fun bracketing input reply => ⟨?_, ?_⟩, fun first others => ?_⟩
  · intro ⟨depth, ran⟩
    obtain ⟨earlier, parser, later, own, items, refused, answers, decides, same⟩ :=
      Grammar.exists_decider_of_firstOf (Grammar.run_alternatives_iff.mp ran)
    exact ⟨earlier, parser, later, own, items, fun given member => ⟨depth, refused given member⟩, ⟨depth, answers⟩,
      decides, same⟩
  · rintro ⟨earlier, parser, later, own, items, refused, answers, decides, rfl⟩
    obtain ⟨depth, all, ran⟩ := Grammar.Answers.common_depth refused answers
    have decided : FirstOf input ((parser :: later).map (grammar.run depth)) own := by
      rcases decides with rfl | ⟨success, succeeds⟩
      · exact FirstOf.single_iff.mpr ran
      · exact (FirstOf.single_iff.mpr ran).append_found succeeds
    refine ⟨depth, Grammar.run_alternatives_iff.mpr ?_⟩
    rw [items]
    exact Grammar.firstOf_behind all decided
  · exact Bracketing.exists_choice (.single first) others

end Backtrack
