import Backtrack.Proofs.RecordCount
import Backtrack.Proofs.SuffixDiscipline
import Backtrack.Proofs.Termination
import Backtrack.Proofs.TraceDiscipline
import Backtrack.Proofs.TreeReading

/-! How often brackets are tried. A rule goes through its input from left to right, up to the
first character that closes more than is open or is no bracket. A group that is given
up there has been looked through once, and no rule around it looks at it again. -/

namespace Backtrack

/-! ## Longest match one character at a time -/

namespace Text

variable {language : Text → Prop} {part whole rest : Text} {c : Char}

/-- Where every opening of a member is a member, the longest one cannot take one character more. -/
theorem IsLongest.of_stuck (closed : ∀ {start text}, start <+: text → language text → language start)
    (opens : part <+: whole) (member : language part)
    (stuck : ∀ c rest, whole = part ++ c :: rest → ¬ language (part ++ [c])) : IsLongest language part whole where
  opens := opens
  member := member
  longest := by
    intro other within spoken
    rcases List.prefix_or_prefix_of_prefix within opens with shorter | ⟨more, rfl⟩
    · exact shorter.length_le
    · cases more with
      | nil => simp
      | cons c more =>
        obtain ⟨behind, rfl⟩ := within
        have next : part ++ [c] <+: part ++ c :: more := ⟨more, by simp⟩
        exact absurd (closed next spoken) (stuck c (more ++ behind) (by simp))

theorem IsLongest.stuck (longest : IsLongest language part whole) (same : whole = part ++ c :: rest) :
    ¬ language (part ++ [c]) := by
  intro member
  have opens : part ++ [c] <+: whole := ⟨rest, by simp [same]⟩
  have bound := longest.longest _ opens member
  rw [List.length_append, List.length_singleton] at bound
  exact Nat.lt_irrefl _ bound

end Text

/-! ## Attempts -/

namespace Run

variable {κ : Type u} {run : Run α} {input tail : Text} {value : α}

theorem Reads.onSuccess (reads : run.Reads input (some (value, tail))) (next : Success α → List κ) :
    run.onSuccess input next = next ⟨tail, value⟩ := by
  obtain ⟨trace, ran⟩ := reads_some_iff.mp reads
  simp only [Run.onSuccess, ran]

theorem Reads.onSuccess_refused (reads : run.Reads input none) (next : Success α → List κ) :
    run.onSuccess input next = [] := by
  obtain ⟨trace, refusal, ran⟩ := reads_none_iff.mp reads
  simp only [Run.onSuccess, ran]

end Run

namespace Grammar

variable {Rule : Type → Type} (grammar : Grammar Rule) (depth : Nat) (input : Text)

theorem attempts_take (expected : CharClass) :
    grammar.attempts depth (.take expected) input = [⟨expected, input⟩] := by
  cases depth <;> rfl

theorem attempts_ret (value : α) : grammar.attempts depth (.ret value) input = [] := by
  cases depth <;> rfl

theorem attempts_map (f : α → β) (parser : Parser Rule α) :
    grammar.attempts depth (.map f parser) input = grammar.attempts depth parser input := by
  cases depth <;> rfl

theorem attempts_seq (first : Parser Rule α) (second : Parser Rule β) :
    grammar.attempts depth (.seq first second) input = grammar.attempts depth first input ++
      Run.onSuccess (grammar.run depth first) input fun success => grammar.attempts depth second success.tail := by
  cases depth <;> rfl

theorem attempts_alt (first second : Parser Rule α) :
    grammar.attempts depth (.alt first second) input = grammar.attempts depth first input ++
      Run.onRefusal (grammar.run depth first) input (grammar.attempts depth second input) := by
  cases depth <;> rfl

theorem attempts_rule (name : Rule α) :
    grammar.attempts (depth + 1) (.rule name) input = grammar.attempts depth (grammar.body name) input := rfl

end Grammar

namespace Balanced

/-! ## The text that is looked through -/

theorem NeverBelow.of_prefix {start text : Text} (opens : start <+: text) (never : NeverBelow text) :
    NeverBelow start where
  brackets := fun c member => never.brackets c (opens.subset member)
  nonneg := fun other within => never.nonneg other (within.trans opens)

theorem NeverBelow.concat {text : Text} {c : Char} (never : NeverBelow text) (bracket : c = '(' ∨ c = ')')
    (counted : 0 ≤ excess (text ++ [c])) : NeverBelow (text ++ [c]) where
  brackets := by
    intro d member
    rcases List.mem_append.mp member with member | member
    · exact never.brackets d member
    · rwa [List.mem_singleton.mp member]
  nonneg := by
    intro start opens
    rcases List.prefix_concat_iff.mp opens with rfl | within
    · exact counted
    · exact never.nonneg start within

/-- Behind a balanced text the count starts over again. -/
theorem IsBalanced.neverBelow_append_iff {first second : Text} (balanced : IsBalanced first) :
    NeverBelow (first ++ second) ↔ NeverBelow second := by
  refine ⟨fun never => ⟨?_, ?_⟩, fun never => ⟨?_, ?_⟩⟩
  · exact fun c member => never.brackets c (List.mem_append_right _ member)
  · intro start opens
    have counted := never.nonneg (first ++ start) ((List.prefix_append_right_inj first).mpr opens)
    rwa [excess_append, balanced.settled, Int.zero_add] at counted
  · intro c member
    rcases List.mem_append.mp member with member | member
    · exact balanced.brackets c member
    · exact never.brackets c member
  · intro start opens
    rcases prefix_append_cases opens with within | ⟨more, further, rfl⟩
    · exact balanced.nonneg start within
    · rw [excess_append, balanced.settled, Int.zero_add]
      exact never.nonneg more further

theorem IsBalanced.longest_append {first part whole : Text} (balanced : IsBalanced first)
    (longest : Text.IsLongest NeverBelow part whole) : Text.IsLongest NeverBelow (first ++ part) (first ++ whole) := by
  refine .of_stuck NeverBelow.of_prefix ((List.prefix_append_right_inj first).mpr longest.opens)
    (balanced.neverBelow_append_iff.mpr longest.member) ?_
  intro c rest same more
  rw [List.append_assoc] at same more
  exact longest.stuck (List.append_cancel_left same) (balanced.neverBelow_append_iff.mp more)

theorem longest_of_unopened {input : Text} (unopened : ∀ rest, input ≠ '(' :: rest) :
    Text.IsLongest NeverBelow [] input := by
  refine .of_stuck NeverBelow.of_prefix List.nil_prefix isBalanced_nil.toNeverBelow ?_
  intro c rest same never
  rcases never.brackets c List.mem_cons_self with rfl | rfl
  · exact unopened rest same
  · exact absurd (never.nonneg _ (List.prefix_refl _)) (by decide)

theorem neverBelow_opening {text : Text} (never : NeverBelow text) : NeverBelow ('(' :: text) where
  brackets := by
    intro c member
    rcases List.mem_cons.mp member with rfl | member
    · exact .inl rfl
    · exact never.brackets c member
  nonneg := by
    intro start opens
    rcases List.prefix_cons_iff.mp opens with rfl | ⟨start, rfl, within⟩
    · exact Int.le_refl 0
    · have counted := never.nonneg start within
      rw [excess_opening]
      omega

/-- A bracket that is opened and not closed lets the count fall no further than without it: only
its own partner could have stood where the count ends. -/
theorem longest_of_unclosed {left : Tree} {part rest : Text} (bare : Bare rest) (unclosed : ∀ more, rest ≠ ')' :: more)
    (longest : Text.IsLongest NeverBelow part (left.brackets ++ rest)) :
    Text.IsLongest NeverBelow ('(' :: part) ('(' :: (left.brackets ++ rest)) := by
  refine .of_stuck NeverBelow.of_prefix ((List.prefix_cons_inj '(').mpr longest.opens)
    (neverBelow_opening longest.member) ?_
  intro c more same never
  have behind : left.brackets ++ rest = part ++ c :: more := List.tail_eq_of_cons_eq same
  have bracket : c = '(' ∨ c = ')' := never.brackets c (by simp)
  have below : excess (part ++ [c]) < 0 :=
    Int.not_le.mp fun counted => longest.stuck behind (longest.member.concat bracket counted)
  have before := longest.member.nonneg part (List.prefix_refl part)
  rw [excess_append] at below
  rcases bracket with rfl | rfl
  · have one : excess ['('] = 1 := rfl
    omega
  · -- What has been seen is balanced, so it is the text of the inner tree.
    have minusOne : excess [')'] = -1 := rfl
    have balanced : IsBalanced part := ⟨longest.member, by omega⟩
    obtain ⟨tree, rfl⟩ := balanced.exists_tree
    exact unclosed more (brackets_unique bare (bare_closing more) behind).2

/-! ## The course of a rule -/

/-- The tree that a rule reads, the text that it leaves, and all that it has looked through to
know them: a group that is given up counts as well. -/
inductive Course : Text → Tree → Text → Text → Prop where
  | unopened {input} (absent : ∀ rest, input ≠ '(' :: rest) : Course input .leaf input []
  | unclosed {body left rest seen} (inner : Course body left rest seen) (absent : ∀ more, rest ≠ ')' :: more) :
      Course ('(' :: body) .leaf ('(' :: body) ('(' :: seen)
  | closed {body left more seen right rest further} (inner : Course body left (')' :: more) seen)
      (others : Course more right rest further) :
      Course ('(' :: body) (.node left right) rest ('(' :: seen ++ ')' :: further)

namespace Course

variable {input rest seen : Text} {tree : Tree}

theorem text (course : Course input tree rest seen) : input = tree.brackets ++ rest := by
  induction course with
  | unopened => rfl
  | unclosed => rfl
  | closed _ _ inner others => rw [inner, others, Tree.brackets_node_append]

theorem bare (course : Course input tree rest seen) : Bare rest := by
  induction course with
  | unopened absent => exact bare_of_closed absent
  | unclosed inner absent ih =>
    rw [inner.text]
    exact bare_unclosed _ ih absent
  | closed _ _ _ others => exact others

/-- In front of a closing bracket nothing was given up. -/
theorem seen_of_closing {more : Text} (course : Course input tree rest seen) (closing : rest = ')' :: more) :
    seen = tree.brackets := by
  induction course generalizing more with
  | unopened => rfl
  | unclosed => exact absurd (List.head_eq_of_cons_eq closing) (by decide)
  | closed _ _ inner others => rw [inner rfl, others closing, Tree.brackets]

theorem longest (course : Course input tree rest seen) : Text.IsLongest NeverBelow seen input := by
  induction course with
  | unopened absent => exact longest_of_unopened absent
  | unclosed inner absent ih =>
    have split := inner.text
    subst split
    exact longest_of_unclosed inner.bare absent ih
  | @closed _ left _ _ _ _ _ inner others _ ih =>
    obtain rfl := inner.seen_of_closing rfl
    rw [inner.text]
    simpa using left.isBalanced_brackets.enclosed.longest_append ih

theorem reads {depth : Nat} (course : Course input tree rest seen) (rule : Rule Tree) (deep : input.length < depth) :
    grammar.Reads depth (.rule rule) input (some (tree, rest)) := by
  obtain rfl := course.text
  exact reads_brackets rule tree course.bare deep

end Course

theorem exists_course (input : Text) : ∃ tree rest seen, Course input tree rest seen := by
  induction length : input.length using Nat.strongRecOn generalizing input with
  | ind _ ih =>
    subst length
    by_cases opened : ∃ body, input = '(' :: body
    · obtain ⟨body, rfl⟩ := opened
      obtain ⟨left, afterLeft, seen, inner⟩ := ih _ (Nat.lt_succ_self _) body rfl
      by_cases closed : ∃ more, afterLeft = ')' :: more
      · obtain ⟨more, rfl⟩ := closed
        have shorter : more.length < ('(' :: body).length := by
          rw [inner.text, List.length_cons, List.length_append, List.length_cons]
          omega
        obtain ⟨right, rest, further, others⟩ := ih _ shorter more rfl
        exact ⟨_, _, _, .closed inner others⟩
      · exact ⟨_, _, _, .unclosed inner fun more same => closed ⟨more, same⟩⟩
    · exact ⟨_, _, _, .unopened fun rest same => opened ⟨rest, same⟩⟩

/-! ## Its records -/

theorem costs_rule {rule : Rule Tree} {input : Text} {count : Nat} {result : Option (Tree × Text)}
    (body : grammar.Costs (.alt (.map (fun (_, left, _, right) => Tree.node left right) (pair rule)) (.ret .leaf))
      input count result) : grammar.Costs (.rule rule) input count result :=
  Grammar.Costs.rule (body_eq rule ▸ body)

private theorem head_ne {symbol : Char} {input : Text} (absent : ∀ rest, input ≠ symbol :: rest) :
    ∀ c ∈ input.head?, c ≠ symbol := by
  intro c first same
  obtain ⟨rest, split⟩ := List.head?_eq_some_iff.mp first
  exact absent rest (same ▸ split)

/-- A refusal and a retreat for each bracket that was opened, and for the call itself. -/
theorem Course.costs {input rest seen : Text} {tree : Tree} (course : Course input tree rest seen) (rule : Rule Tree) :
    grammar.Costs (.rule rule) input (2 * (seen.count '(' + 1)) (some (tree, rest)) := by
  induction course with
  | unopened absent =>
    have refused : grammar.Costs (pair rule) _ 1 none := (Grammar.costs_symbol_refused (head_ne absent)).seq_refused
    exact costs_rule ((refused.map _).alt_refused (Grammar.costs_ret _ _))
  | @unclosed body _ rest seen _ absent ih =>
    have opened : grammar.Costs (.take opening) ('(' :: body) 0 _ := Grammar.costs_symbol '(' body
    have missing : grammar.Costs (.take closing) rest 1 none := Grammar.costs_symbol_refused (head_ne absent)
    have refused : grammar.Costs (pair rule) ('(' :: body) _ none := opened.seq (ih.seq missing.seq_refused)
    have total : 2 * (List.count '(' ('(' :: seen) + 1) = 0 + (2 * (seen.count '(' + 1) + 1) + 1 + 0 := by
      rw [List.count_cons_self]
      omega
    rw [total]
    exact costs_rule ((refused.map _).alt_refused (Grammar.costs_ret _ _))
  | @closed body _ more seen _ _ further _ _ inner others =>
    have opened : grammar.Costs (.take opening) ('(' :: body) 0 _ := Grammar.costs_symbol '(' body
    have closed : grammar.Costs (.take closing) (')' :: more) 0 _ := Grammar.costs_symbol ')' more
    have total : 2 * (List.count '(' ('(' :: seen ++ ')' :: further) + 1) =
        0 + (2 * (seen.count '(' + 1) + (0 + 2 * (further.count '(' + 1))) := by
      rw [List.count_append, List.count_cons_self, List.count_cons_of_ne (by decide)]
      omega
    rw [total]
    exact costs_rule ((opened.seq (inner.seq (closed.seq others))).map _).alt

/-! ## Its attempts -/

/-- The texts on which an opening bracket is looked for in a run of the parser, one for each
attempt and in their order. -/
def openings (depth : Nat) (parser : Parser Rule α) (input : Text) : List Text :=
  ((grammar.attempts depth parser input).filter fun attempt => attempt.expected.mem '(').map Attempt.input

section

variable {depth : Nat} {first : Parser Rule α} {second : Parser Rule β} {input tail : Text} {value : α}

theorem openings_opening : openings depth (.take opening) input = [input] := by
  rw [openings, Grammar.attempts_take]
  rfl

theorem openings_closing : openings depth (.take closing) input = [] := by
  rw [openings, Grammar.attempts_take]
  rfl

theorem openings_seq (read : grammar.Reads depth first input (some (value, tail))) :
    openings depth (.seq first second) input = openings depth first input ++ openings depth second tail := by
  simp only [openings, Grammar.attempts_seq, read.onSuccess, List.filter_append, List.map_append]

theorem openings_seq_refused (refused : grammar.Reads depth first input none) :
    openings depth (.seq first second) input = openings depth first input := by
  simp only [openings, Grammar.attempts_seq, refused.onSuccess_refused, List.append_nil]

/-- The leaf in place of a pair is tried on nothing. -/
theorem openings_rule (rule : Rule Tree) : openings (depth + 1) (.rule rule) input = openings depth (pair rule) input := by
  simp only [openings, Grammar.attempts_rule, body_eq, Grammar.attempts_alt, Grammar.attempts_map,
    Grammar.attempts_ret, Run.onRefusal_nil, List.append_nil]

theorem openings_unopened (rule : Rule Tree) (absent : ∀ rest, input ≠ '(' :: rest) :
    openings (depth + 1) (.rule rule) input = [input] := by
  have refused : grammar.Reads depth (.take opening) input none := Grammar.reads_symbol_refused absent
  rw [openings_rule, pair, openings_seq_refused refused, openings_opening]

theorem openings_opened (rule : Rule Tree) (body : Text) : openings (depth + 1) (.rule rule) ('(' :: body) =
    ('(' :: body) :: openings depth (.seq (.rule rule) (.seq (.take closing) (.rule rule))) body := by
  have opened : grammar.Reads depth (.take opening) ('(' :: body) (some ('(', body)) := Grammar.reads_symbol '(' body
  rw [openings_rule, pair, openings_seq opened, openings_opening, List.singleton_append]

end

/-- What stands behind the first characters of a text, one more of them each time. -/
def restsWithin (count : Nat) (text : Text) : List Text := (List.range count).map text.drop

theorem restsWithin_cons (count : Nat) (c : Char) (text : Text) :
    restsWithin (count + 1) (c :: text) = (c :: text) :: restsWithin count text := by
  simp only [restsWithin, List.range_succ_eq_map, List.map_cons, List.map_map, List.drop_zero]
  rfl

theorem restsWithin_append (count : Nat) (first second : Text) :
    restsWithin (first.length + count) (first ++ second) =
      restsWithin first.length (first ++ second) ++ restsWithin count second := by
  simp only [restsWithin, List.range_add, List.map_append, List.map_map]
  refine congrArg _ (List.map_congr_left fun position _ => ?_)
  simp

theorem nodup_restsWithin {count : Nat} {text : Text} (within : count ≤ text.length + 1) :
    (restsWithin count text).Nodup := by
  refine List.pairwise_map.mpr (List.nodup_range.imp_of_mem fun first second different same => ?_)
  have lengths := congrArg List.length same
  rw [List.length_drop, List.length_drop] at lengths
  rw [List.mem_range] at first second
  omega

/-- The attempts within the brackets are those of the rule one level down, and so are those behind
the brackets if they are closed. -/
theorem Course.openings_eq {input rest seen : Text} {tree : Tree} (course : Course input tree rest seen)
    (rule : Rule Tree) {depth : Nat} (deep : input.length < depth) :
    openings depth (.rule rule) input = restsWithin (seen.length + 1) input := by
  induction course generalizing depth with
  | unopened absent =>
    obtain ⟨depth, rfl⟩ := Nat.exists_eq_succ_of_ne_zero (Nat.ne_zero_of_lt deep)
    exact openings_unopened rule absent
  | @unclosed body _ rest seen inner absent ih =>
    obtain ⟨depth, rfl⟩ := Nat.exists_eq_succ_of_ne_zero (Nat.ne_zero_of_lt deep)
    have shorter : body.length < depth := Nat.lt_of_succ_lt_succ deep
    have missing : grammar.Reads depth (.take closing) rest none := Grammar.reads_symbol_refused absent
    rw [openings_opened, openings_seq (inner.reads rule shorter), openings_seq_refused missing, openings_closing,
      List.append_nil, ih shorter]
    exact (restsWithin_cons _ _ _).symm
  | @closed body left more seen _ _ further inner outer ih others =>
    obtain ⟨depth, rfl⟩ := Nat.exists_eq_succ_of_ne_zero (Nat.ne_zero_of_lt deep)
    have shorter : body.length < depth := Nat.lt_of_succ_lt_succ deep
    have closed : grammar.Reads depth (.take closing) (')' :: more) (some (')', more)) := Grammar.reads_symbol ')' more
    have split : body = seen ++ [')'] ++ more := by
      rw [inner.text, inner.seen_of_closing rfl, List.append_assoc]
      rfl
    have behind : more.length < depth := by
      rw [split, List.length_append] at shorter
      omega
    rw [openings_opened, openings_seq (inner.reads rule shorter), openings_seq closed, openings_closing, List.nil_append,
      ih shorter, others behind]
    have both := restsWithin_append (further.length + 1) (seen ++ [')']) more
    rw [← split, List.length_append, List.length_singleton] at both
    have total : ('(' :: seen ++ ')' :: further).length = seen.length + 1 + (further.length + 1) := by
      rw [List.length_append, List.length_cons, List.length_cons]
    rw [← both, ← restsWithin_cons, total]

/-! ## Both together -/

theorem length_retreats (refusals : List Refusal) : (Trace.retreats refusals).length = 2 * refusals.length := by
  simp [Trace.retreats, List.length_flatMap, List.map_const', Nat.mul_comm]

/-- On every input the rule succeeds, and what it records is set by the longest opening of the input
that consists of brackets only and closes none that is not open. For each bracket that is
opened there, and once more, it records a refusal and the retreat from it. It looks for
an opening bracket at the beginning and behind each character of that text, from left to
right and once at each place, so no bracket is opened twice: also not when a group is
given up since it is not closed. -/
theorem brackets_are_tried_once (rule : Rule Tree) (input : Text) :
    ∃ part trace success, Text.IsLongest NeverBelow part input ∧
      grammar.apply (.rule rule) input = some ⟨trace, .ok success⟩ ∧
      trace.length = 2 * (part.count '(' + 1) ∧
      (∃ refusals, trace = Trace.retreats refusals ∧ refusals.length = part.count '(' + 1) ∧
      openings (grammar.limit input) (.rule rule) input = (List.range (part.length + 1)).map input.drop ∧
      (openings (grammar.limit input) (.rule rule) input).Nodup := by
  obtain ⟨tree, rest, seen, course⟩ := exists_course input
  obtain ⟨trace, answers, counted⟩ := Grammar.costs_some_iff.mp (course.costs rule)
  have applied := (ranking.rulesTerminate.rule rule).apply_eq_some_iff.mpr answers
  obtain ⟨refusals, recorded⟩ := Run.paired_kept.run grammar _ (.rule rule) input _ applied
  have closed : trace = Trace.retreats refusals := by simpa [Reply.pending] using recorded
  have looked := course.openings_eq rule (grammar.length_lt_limit input)
  refine ⟨seen, trace, _, course.longest, applied, counted, ⟨refusals, closed, ?_⟩, looked, ?_⟩
  · rw [closed, length_retreats] at counted
    exact Nat.eq_of_mul_eq_mul_left Nat.two_pos counted
  · rw [looked]
    exact nodup_restsWithin (Nat.succ_le_succ course.longest.opens.length_le)

end Balanced
end Backtrack
