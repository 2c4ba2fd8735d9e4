import Backtrack.Balanced.Grammar
import Backtrack.Proofs.BalancedText
import Backtrack.Proofs.DepthIndependence
import Backtrack.Proofs.Reading

/-! What the two rules for balanced brackets read. They read the tree whose text stands at
the start of the input in front of a bare rest. A group that is not closed is given up
as a whole, and nothing is lost by that: no pair of brackets opens where it begins. -/

namespace Backtrack.Balanced

variable {depth : Nat}

/-- What both rules try before they settle for nothing. -/
def pair (rule : Rule Tree) : Parser Rule (Char × Tree × Char × Tree) :=
  .seq (.take opening) (.seq (.rule rule) (.seq (.take closing) (.rule rule)))

theorem body_eq (rule : Rule Tree) :
    grammar.body rule = .alt (.map (fun (_, left, _, right) => Tree.node left right) (pair rule)) (.ret .leaf) := by
  cases rule <;> rfl

theorem reads_node {rule : Rule Tree} {body afterLeft rest : Text} {left right : Tree}
    (inner : grammar.Reads depth (.rule rule) body (some (left, ')' :: afterLeft)))
    (others : grammar.Reads depth (.rule rule) afterLeft (some (right, rest))) :
    grammar.Reads (depth + 1) (.rule rule) ('(' :: body) (some (.node left right, rest)) := by
  apply Grammar.Reads.rule
  rw [body_eq]
  have closed : grammar.Reads depth (.take closing) (')' :: afterLeft) _ := Grammar.reads_symbol ')' afterLeft
  have opened : grammar.Reads depth (.take opening) ('(' :: body) _ := Grammar.reads_symbol '(' body
  exact ((opened.seq (inner.seq (closed.seq others))).map _).alt

theorem reads_leaf {rule : Rule Tree} {input : Text} (refused : grammar.Reads depth (pair rule) input none) :
    grammar.Reads (depth + 1) (.rule rule) input (some (.leaf, input)) := by
  apply Grammar.Reads.rule
  rw [body_eq]
  exact (refused.map _).alt_refused (Grammar.reads_ret _ input)

theorem pair_refused_of_unopened {rule : Rule Tree} {input : Text} (unopened : ∀ rest, input ≠ '(' :: rest) :
    grammar.Reads depth (pair rule) input none :=
  (Grammar.reads_symbol_refused unopened).seq_refused

theorem pair_refused_of_unclosed {rule : Rule Tree} {body rest : Text} {left : Tree}
    (inner : grammar.Reads depth (.rule rule) body (some (left, rest))) (unclosed : ∀ more, rest ≠ ')' :: more) :
    grammar.Reads depth (pair rule) ('(' :: body) none := by
  have opened : grammar.Reads depth (.take opening) ('(' :: body) _ := Grammar.reads_symbol '(' body
  have missing : grammar.Reads depth (.take closing) rest none := Grammar.reads_symbol_refused unclosed
  exact opened.seq (inner.seq missing.seq_refused)

theorem reads_tree (rule : Rule Tree) (input : Text) (deep : input.length < depth) :
    ∃ tree rest, input = tree.brackets ++ rest ∧ Bare rest ∧
      grammar.Reads depth (.rule rule) input (some (tree, rest)) := by
  -- One level down the rule runs behind the opening bracket, and again behind the closing one.
  induction depth generalizing input with
  | zero => exact absurd deep (Nat.not_lt_zero _)
  | succ depth ih =>
    by_cases opened : ∃ body, input = '(' :: body
    · obtain ⟨body, rfl⟩ := opened
      obtain ⟨left, afterLeft, rfl, bare, inner⟩ := ih body (Nat.lt_of_succ_lt_succ deep)
      by_cases closed : ∃ more, afterLeft = ')' :: more
      · obtain ⟨more, rfl⟩ := closed
        have shorter : more.length < depth := by
          simp only [List.length_cons, List.length_append] at deep
          omega
        obtain ⟨right, rest, rfl, bare, others⟩ := ih more shorter
        exact ⟨.node left right, rest, (Tree.brackets_node_append left right rest).symm, bare, reads_node inner others⟩
      · have unclosed : ∀ more, afterLeft ≠ ')' :: more := fun more same => closed ⟨more, same⟩
        exact ⟨.leaf, _, rfl, bare_unclosed left bare unclosed, reads_leaf (pair_refused_of_unclosed inner unclosed)⟩
    · have unopened : ∀ rest, input ≠ '(' :: rest := fun rest same => opened ⟨rest, same⟩
      exact ⟨.leaf, input, rfl, bare_of_closed unopened, reads_leaf (pair_refused_of_unopened unopened)⟩

theorem reads_brackets (rule : Rule Tree) (tree : Tree) {rest : Text} (bare : Bare rest)
    (deep : (tree.brackets ++ rest).length < depth) :
    grammar.Reads depth (.rule rule) (tree.brackets ++ rest) (some (tree, rest)) := by
  obtain ⟨other, more, same, bareMore, reads⟩ := reads_tree rule (tree.brackets ++ rest) deep
  obtain ⟨rfl, rfl⟩ := brackets_unique bare bareMore same
  exact reads

theorem apply_reads_tree (rule : Rule Tree) (input : Text) : ∃ tree rest, input = tree.brackets ++ rest ∧ Bare rest ∧
    grammar.Reads (grammar.limit input) (.rule rule) input (some (tree, rest)) :=
  reads_tree rule input (grammar.length_lt_limit input)

theorem apply_reads_brackets (rule : Rule Tree) (tree : Tree) {rest : Text} (bare : Bare rest) :
    grammar.Reads (grammar.limit (tree.brackets ++ rest)) (.rule rule) (tree.brackets ++ rest) (some (tree, rest)) :=
  reads_brackets rule tree bare (grammar.length_lt_limit _)

/-- The text is left as it is, and the value is a leaf, exactly where the text is bare. -/
theorem apply_eq_leaf_iff (rule : Rule Tree) (rest : Text) :
    (∃ trace tail, grammar.apply (.rule rule) rest = some ⟨trace, .ok ⟨tail, .leaf⟩⟩) ↔ Bare rest := by
  constructor
  · rintro ⟨trace, tail, ran⟩
    obtain ⟨tree, more, rfl, bare, reads⟩ := apply_reads_tree rule rest
    have same := reads.unique (Grammar.apply_eq_ok_iff.mp ⟨trace, ran⟩)
    cases same
    exact bare
  · intro bare
    obtain ⟨trace, ran⟩ := Grammar.apply_eq_ok_iff.mpr (apply_reads_brackets rule .leaf bare)
    exact ⟨trace, rest, ran⟩

/-- Reading a tree and writing its brackets undo one another. What is read is the text of the
tree, and the rest is left. A tree is read back from its text in front of every rest on
which the rule settles for a leaf, and those are the rests with which no balanced text
begins but the empty one. -/
theorem trees_are_read_back (rule : Rule Tree) :
    (∀ input, ∃ trace tree tail, grammar.apply (.rule rule) input = some ⟨trace, .ok ⟨tail, tree⟩⟩ ∧
      input = tree.brackets ++ tail) ∧
    (∀ rest, (∃ trace tail, grammar.apply (.rule rule) rest = some ⟨trace, .ok ⟨tail, .leaf⟩⟩) ↔
      ∀ part, part <+: rest → IsBalanced part → part = []) ∧
    (∀ tree rest, (∃ trace tail, grammar.apply (.rule rule) rest = some ⟨trace, .ok ⟨tail, .leaf⟩⟩) →
      ∃ trace, grammar.apply (.rule rule) (tree.brackets ++ rest) = some ⟨trace, .ok ⟨rest, tree⟩⟩) ∧
    ∀ tree, grammar.parseAll (.rule rule) (Tree.brackets tree) = some (.ok tree) := by
  refine ⟨?_, ?_, ?_, ?_⟩
  · intro input
    obtain ⟨tree, rest, same, _, reads⟩ := apply_reads_tree rule input
    obtain ⟨trace, ran⟩ := Grammar.apply_eq_ok_iff.mpr reads
    exact ⟨trace, tree, rest, ran, same⟩
  · intro rest
    exact (apply_eq_leaf_iff rule rest).trans bare_iff
  · intro tree rest leaf
    have bare := (apply_eq_leaf_iff rule rest).mp leaf
    exact Grammar.apply_eq_ok_iff.mpr (apply_reads_brackets rule tree bare)
  · intro tree
    have reads := apply_reads_brackets rule tree bare_nil
    rw [List.append_nil] at reads
    exact Grammar.parseAll_eq_ok_iff.mpr reads

theorem tree_before_unclosed_group_read_back :
    (∃ trace tail, grammar.apply (.rule .basic) ['(', '(', ')'] = some ⟨trace, .ok ⟨tail, .leaf⟩⟩) ∧
      ∃ trace, grammar.apply (.rule .basic) (Tree.brackets (.node (.node .leaf .leaf) .leaf) ++ ['(', '(', ')']) =
        some ⟨trace, .ok ⟨['(', '(', ')'], .node (.node .leaf .leaf) .leaf⟩⟩ := by
  have leaf : ∃ trace tail, grammar.apply (.rule .basic) ['(', '(', ')'] = some ⟨trace, .ok ⟨tail, .leaf⟩⟩ :=
    ⟨_, _, rfl⟩
  exact ⟨leaf, (trees_are_read_back .basic).2.2.1 _ _ leaf⟩

/-- The rule always succeeds and reads the longest balanced text with which the input begins.
A whole text is parsed exactly if it is balanced, and the only error there is names the
text behind that opening. -/
theorem longest_balanced_text_is_read (rule : Rule Tree) (input : Text) :
    ∃ trace tree part tail, grammar.apply (.rule rule) input = some ⟨trace, .ok ⟨tail, tree⟩⟩ ∧
      input = part ++ tail ∧ Text.IsLongest IsBalanced part input ∧
      ((∃ value, grammar.parseAll (.rule rule) input = some (.ok value)) ↔ IsBalanced input) ∧
      ∀ error, grammar.parseAll (.rule rule) input = some (.error error) ↔
        ¬ IsBalanced input ∧ error = .trailing tail := by
  obtain ⟨tree, rest, same, bare, reads⟩ := apply_reads_tree rule input
  obtain ⟨trace, ran⟩ := Grammar.apply_eq_ok_iff.mpr reads
  have parsed := Grammar.parseAll_of_reads reads
  have longest : Text.IsLongest IsBalanced tree.brackets input := same ▸ isLongest_brackets tree bare
  refine ⟨trace, tree, tree.brackets, rest, ran, same, longest, ?_⟩
  rw [parsed]
  cases rest with
  | nil =>
    have balanced : IsBalanced input := by
      rw [same, List.append_nil]
      exact tree.isBalanced_brackets
    exact ⟨⟨fun _ => balanced, fun _ => ⟨tree, rfl⟩⟩, fun error => ⟨nofun, fun unbalanced => absurd balanced unbalanced.1⟩⟩
  | cons c rest =>
    have unbalanced : ¬ IsBalanced input := by
      intro balanced
      have longer := longest.longest input (List.prefix_refl input) balanced
      rw [same, List.length_append, List.length_cons] at longer
      omega
    refine ⟨⟨nofun, fun balanced => absurd balanced unbalanced⟩, fun error => ⟨?_, ?_⟩⟩
    · intro failed
      cases failed
      exact ⟨unbalanced, rfl⟩
    · rintro ⟨_, rfl⟩
      rfl

end Backtrack.Balanced
