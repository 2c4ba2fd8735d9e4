import Backtrack.Proofs.TreeReading

/-! How deep brackets nest. A pair of brackets lifts all that stands in it by one and leaves the
count where it was, so what stands behind it starts over again at the same height: only
the left tree of a node is a level further down. -/

namespace Backtrack.Balanced

theorem isPeak_nil : IsPeak 0 [] where
  bounds := by
    intro start opens
    rw [List.prefix_nil.mp opens]
    exact Int.le_refl 0
  reached := ⟨[], List.prefix_refl [], rfl⟩

/-- Behind a balanced text the count starts over again, so the higher of the two peaks is the
highest of all. -/
theorem IsPeak.append {first second : Text} {left right : Nat} (balanced : IsBalanced first) (before : IsPeak left first)
    (behind : IsPeak right second) : IsPeak (max left right) (first ++ second) where
  bounds := by
    intro start opens
    rcases prefix_append_cases opens with within | ⟨more, further, rfl⟩
    · have bound := before.bounds start within
      omega
    · have bound := behind.bounds more further
      rw [excess_append, balanced.settled]
      omega
  reached := by
    rcases Nat.le_total right left with lower | higher
    · obtain ⟨start, opens, reached⟩ := before.reached
      rw [Nat.max_eq_left lower]
      exact ⟨start, opens.trans (List.prefix_append first second), reached⟩
    · obtain ⟨start, opens, reached⟩ := behind.reached
      refine ⟨first ++ start, (List.prefix_append_right_inj first).mpr opens, ?_⟩
      rw [Nat.max_eq_right higher, excess_append, balanced.settled, Int.zero_add, reached]

theorem IsPeak.enclosed {inner : Text} {peak : Nat} (balanced : IsBalanced inner) (within : IsPeak peak inner) :
    IsPeak (peak + 1) ('(' :: (inner ++ [')'])) where
  bounds := by
    intro start opens
    rcases List.prefix_cons_iff.mp opens with rfl | ⟨start, rfl, behind⟩
    · exact Int.natCast_nonneg _
    rw [excess_opening]
    rcases prefix_append_cases behind with inside | ⟨last, closed, rfl⟩
    · have bound := within.bounds start inside
      omega
    · -- The closing bracket takes away what the opening one has added.
      have bound : excess last ≤ 0 := by
        rcases List.prefix_cons_iff.mp closed with rfl | ⟨rest, rfl, nothing⟩
        · exact Int.le_refl 0
        · have last : excess [')'] = -1 := rfl
          rw [List.prefix_nil.mp nothing, last]
          omega
      rw [excess_append, balanced.settled]
      omega
  reached := by
    obtain ⟨start, opens, reached⟩ := within.reached
    refine ⟨'(' :: start, (List.prefix_cons_inj '(').mpr (opens.trans (List.prefix_append inner _)), ?_⟩
    rw [excess_opening, reached]
    omega

theorem IsPeak.unique {text : Text} {peak other : Nat} (first : IsPeak peak text) (second : IsPeak other text) :
    peak = other := by
  obtain ⟨start, opens, reached⟩ := first.reached
  obtain ⟨further, behind, higher⟩ := second.reached
  have lower := first.bounds further behind
  have upper := second.bounds start opens
  omega

theorem Tree.isPeak_depth (tree : Tree) : IsPeak tree.depth tree.brackets := by
  induction tree with
  | leaf => exact isPeak_nil
  | node left right ihLeft ihRight =>
    have text : (node left right).brackets = '(' :: (left.brackets ++ [')']) ++ right.brackets := by simp [brackets]
    rw [text]
    exact (ihLeft.enclosed left.isBalanced_brackets).append left.isBalanced_brackets.enclosed ihRight

/-- On every input both rules succeed, and the tree is as deep as the text that was read climbs: its
depth is the largest number of brackets that are open at once, over all openings of that
text, and no other number is. -/
theorem depth_counts_open_brackets (rule : Rule Tree) (input : Text) :
    ∃ trace tree part tail, grammar.apply (.rule rule) input = some ⟨trace, .ok ⟨tail, tree⟩⟩ ∧
      input = part ++ tail ∧ ∀ peak, IsPeak peak part ↔ peak = tree.depth := by
  obtain ⟨tree, rest, same, _, reads⟩ := apply_reads_tree rule input
  obtain ⟨trace, ran⟩ := Grammar.apply_eq_ok_iff.mpr reads
  refine ⟨trace, tree, tree.brackets, rest, ran, same, fun peak => ⟨?_, ?_⟩⟩
  · exact fun isPeak => isPeak.unique tree.isPeak_depth
  · rintro rfl
    exact tree.isPeak_depth

end Backtrack.Balanced
