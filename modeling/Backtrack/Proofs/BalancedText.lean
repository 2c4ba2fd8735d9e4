import Backtrack.Balanced.Excess
import Backtrack.Text.Longest

/-! Balanced texts by trees and by counting. The balanced texts are the texts of trees.
Where a text stands in front of a rest that opens no pair of brackets itself, its tree
is determined, and no longer balanced text stands there. -/

namespace Backtrack.Balanced

/-! ## Texts of trees -/

theorem Tree.brackets_node_append (left right : Tree) (rest : Text) :
    (node left right).brackets ++ rest = '(' :: (left.brackets ++ ')' :: (right.brackets ++ rest)) := by
  simp [brackets]

/-- Only the empty tree stands at the start of the text. -/
def Bare (text : Text) : Prop :=
  ∀ tree rest, text = Tree.brackets tree ++ rest → tree = .leaf

theorem bare_of_closed {text : Text} (closed : ∀ rest, text ≠ '(' :: rest) : Bare text := by
  intro tree rest same
  cases tree with
  | leaf => rfl
  | node left right =>
    rw [Tree.brackets_node_append] at same
    exact absurd same (closed _)

theorem bare_nil : Bare [] :=
  bare_of_closed nofun

theorem bare_closing (rest : Text) : Bare (')' :: rest) := by
  apply bare_of_closed
  intro other same
  exact absurd (List.head_eq_of_cons_eq same) (by decide)

/-- There is one tree to read in front of a bare text. The induction carries over to the
left tree of a node because a closing bracket is bare. -/
theorem brackets_unique {tree other : Tree} {rest more : Text} (bare : Bare rest) (bareMore : Bare more)
    (same : tree.brackets ++ rest = other.brackets ++ more) : tree = other ∧ rest = more := by
  induction tree generalizing other rest more with
  | leaf =>
    obtain rfl := bare other more same
    exact ⟨rfl, same⟩
  | node left right ihLeft ihRight =>
    cases other with
    | leaf => exact absurd (bareMore _ rest same.symm) nofun
    | node first second =>
      rw [Tree.brackets_node_append, Tree.brackets_node_append] at same
      obtain ⟨rfl, closed⟩ := ihLeft (bare_closing _) (bare_closing _) (List.tail_eq_of_cons_eq same)
      obtain ⟨rfl, rfl⟩ := ihRight bare bareMore (List.tail_eq_of_cons_eq closed)
      exact ⟨rfl, rfl⟩

/-- A bracket that is opened and not closed opens no pair. -/
theorem bare_unclosed (tree : Tree) {rest : Text} (bare : Bare rest) (unclosed : ∀ more, rest ≠ ')' :: more) :
    Bare ('(' :: (tree.brackets ++ rest)) := by
  intro other more same
  cases other with
  | leaf => rfl
  | node left right =>
    rw [Tree.brackets_node_append] at same
    obtain ⟨_, closed⟩ := brackets_unique bare (bare_closing _) (List.tail_eq_of_cons_eq same)
    exact absurd closed (unclosed _)

/-! ## Counting -/

theorem excess_append (first second : Text) : excess (first ++ second) = excess first + excess second := by
  simp only [excess, List.count_append]
  omega

theorem excess_opening (text : Text) : excess ('(' :: text) = 1 + excess text :=
  excess_append ['('] text

theorem excess_closing (text : Text) : excess (')' :: text) = -1 + excess text :=
  excess_append [')'] text

theorem prefix_append_cases {start first second : Text} (opens : start <+: first ++ second) :
    start <+: first ∨ ∃ more, more <+: second ∧ start = first ++ more := by
  rcases List.prefix_or_prefix_of_prefix opens (List.prefix_append first second) with within | ⟨more, rfl⟩
  · exact .inl within
  · exact .inr ⟨more, (List.prefix_append_right_inj first).mp opens, rfl⟩

theorem isBalanced_nil : IsBalanced [] where
  brackets := nofun
  nonneg := by
    intro start opens
    obtain rfl := List.prefix_nil.mp opens
    decide
  settled := rfl

theorem IsBalanced.append {first second : Text} (left : IsBalanced first) (right : IsBalanced second) :
    IsBalanced (first ++ second) where
  brackets := by
    intro c member
    rcases List.mem_append.mp member with member | member
    · exact left.brackets c member
    · exact right.brackets c member
  nonneg := by
    intro start opens
    rcases prefix_append_cases opens with within | ⟨more, further, rfl⟩
    · exact left.nonneg start within
    · rw [excess_append, left.settled, Int.zero_add]
      exact right.nonneg more further
  settled := by rw [excess_append, left.settled, right.settled, Int.add_zero]

theorem IsBalanced.enclosed {inner : Text} (balanced : IsBalanced inner) :
    IsBalanced ('(' :: (inner ++ [')'])) where
  brackets := by
    intro c member
    rcases List.mem_cons.mp member with rfl | member
    · exact .inl rfl
    · rcases List.mem_append.mp member with member | member
      · exact balanced.brackets c member
      · exact .inr (List.mem_singleton.mp member)
  nonneg := by
    intro start opens
    rcases List.prefix_cons_iff.mp opens with rfl | ⟨start, rfl, behind⟩
    · decide
    · rw [excess_opening]
      rcases prefix_append_cases behind with within | ⟨more, further, rfl⟩
      · have counted := balanced.nonneg start within
        omega
      · rw [excess_append, balanced.settled]
        rcases List.prefix_cons_iff.mp further with rfl | ⟨more, rfl, last⟩
        · decide
        · obtain rfl := List.prefix_nil.mp last
          decide
  settled := by
    rw [excess_opening, excess_append, balanced.settled]
    decide

theorem Tree.isBalanced_brackets (tree : Tree) : IsBalanced tree.brackets := by
  induction tree with
  | leaf => exact isBalanced_nil
  | node left right ihLeft ihRight =>
    have text : (node left right).brackets = '(' :: (left.brackets ++ [')']) ++ right.brackets := by simp [brackets]
    rw [text]
    exact ihLeft.enclosed.append ihRight

/-- Where more brackets are closed than opened, the first that has no partner stands behind
the text of a tree. -/
theorem exists_tree_of_excess_neg {text : Text} (brackets : ∀ c ∈ text, c = '(' ∨ c = ')') (below : excess text < 0) :
    ∃ tree rest, text = Tree.brackets tree ++ ')' :: rest := by
  induction length : text.length using Nat.strongRecOn generalizing text with
  | ind _ ih =>
    subst length
    cases text with
    | nil => exact absurd below (by decide)
    | cons c text =>
      rcases brackets c List.mem_cons_self with rfl | rfl
      · rw [excess_opening] at below
        have others : ∀ c ∈ text, c = '(' ∨ c = ')' := fun c member => brackets c (List.mem_cons_of_mem _ member)
        obtain ⟨left, text, rfl⟩ := ih _ (Nat.lt_succ_self _) others (by omega) rfl
        rw [excess_append, left.isBalanced_brackets.settled, excess_closing] at below
        have behind : ∀ c ∈ text, c = '(' ∨ c = ')' :=
          fun c member => others c (List.mem_append_right _ (List.mem_cons_of_mem _ member))
        obtain ⟨right, rest, rfl⟩ := ih text.length (by simp; omega) behind (by omega) rfl
        exact ⟨.node left right, rest, (Tree.brackets_node_append left right _).symm⟩
      · exact ⟨.leaf, text, rfl⟩

theorem IsBalanced.exists_tree {text : Text} (balanced : IsBalanced text) : ∃ tree, text = Tree.brackets tree := by
  have brackets : ∀ c ∈ text ++ [')'], c = '(' ∨ c = ')' := by
    intro c member
    rcases List.mem_append.mp member with member | member
    · exact balanced.brackets c member
    · exact .inr (List.mem_singleton.mp member)
  have below : excess (text ++ [')']) < 0 := by
    rw [excess_append, balanced.settled]
    decide
  obtain ⟨tree, rest, same⟩ := exists_tree_of_excess_neg brackets below
  rcases List.eq_nil_or_concat rest with rfl | ⟨rest, c, rfl⟩
  · exact ⟨tree, List.append_inj_left' same rfl⟩
  · -- The closing bracket behind the tree would lie within the text and have no partner there.
    have within : text = tree.brackets ++ [')'] ++ rest := by
      have split : text ++ [')'] = (tree.brackets ++ [')'] ++ rest) ++ [c] := by simpa using same
      exact List.append_inj_left' split rfl
    have counted := balanced.nonneg (tree.brackets ++ [')']) (within ▸ List.prefix_append _ rest)
    rw [excess_append, tree.isBalanced_brackets.settled] at counted
    exact absurd counted (by decide)

/-! ## Longest match -/

theorem bare_iff {text : Text} : Bare text ↔ ∀ part, part <+: text → IsBalanced part → part = [] := by
  constructor
  · rintro bare part ⟨rest, rfl⟩ balanced
    obtain ⟨tree, rfl⟩ := balanced.exists_tree
    obtain rfl := bare tree rest rfl
    rfl
  · rintro none tree rest rfl
    have empty := none tree.brackets (List.prefix_append _ rest) tree.isBalanced_brackets
    cases tree with
    | leaf => rfl
    | node left right => cases empty

theorem IsBalanced.of_append {first second : Text} (left : IsBalanced first) (whole : IsBalanced (first ++ second)) :
    IsBalanced second where
  brackets := fun c member => whole.brackets c (List.mem_append_right _ member)
  nonneg := by
    intro start opens
    have counted := whole.nonneg (first ++ start) ((List.prefix_append_right_inj first).mpr opens)
    rwa [excess_append, left.settled, Int.zero_add] at counted
  settled := by
    have settled := whole.settled
    rwa [excess_append, left.settled, Int.zero_add] at settled

theorem isLongest_brackets (tree : Tree) {rest : Text} (bare : Bare rest) :
    Text.IsLongest IsBalanced tree.brackets (tree.brackets ++ rest) where
  opens := List.prefix_append _ rest
  member := tree.isBalanced_brackets
  longest := by
    intro other opens balanced
    rcases prefix_append_cases opens with within | ⟨more, further, rfl⟩
    · exact within.length_le
    · have left := tree.isBalanced_brackets.of_append balanced
      obtain rfl := bare_iff.mp bare more further left
      simp

end Backtrack.Balanced
