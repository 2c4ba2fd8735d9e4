import Backtrack.Proofs.LoopEvaluation
import Backtrack.Proofs.LoopLevels
import Backtrack.Text.Longest

/-! The expression that is read is the longest that the grammar derives. A reader gets at
least as far as any derived text reaches, and exactly so far where what follows stops
its level. The signs and parentheses of a derivation are such stops, so a commitment
to the longest operand never misses an expression. -/

namespace Backtrack.Arithmetic

namespace Level

/-- A reading ends at `tail` or before it, and at `rest` if that stops the level. -/
structure Passes (level : Level) (rest tail : Text) : Prop where
  length_le : tail.length ≤ rest.length
  exact : level.Stops rest → tail = rest

/-- Whatever follows the text, the reader of the level gets past the text. -/
def Covers (N : Type) [Arithmetic N] (level : Level) (text : Text) : Prop :=
  ∀ nesting rest, (text ++ rest).length < nesting → ∃ (value : N) (tail : Text),
    Loop.reader nesting level (text ++ rest) = some (value, tail) ∧ level.Passes rest tail

/-- The text begins with a sign, and the loop of the level gets past it. -/
structure Chains (N : Type) [Arithmetic N] (level : Level) (text : Text) : Prop where
  stops : ∀ rest, level.above.Stops (text ++ rest)
  passes : ∀ nesting rest (value : N), (text ++ rest).length < nesting → level.Passes rest
    (Loop.loop level.operator? (Loop.reader nesting level.above) (text ++ rest).length value (text ++ rest)).2

variable {N : Type} [Arithmetic N] {level : Level} {operand tail : Text}

theorem Passes.loop {rest last : Text} (passes : level.above.Passes rest last) (nesting : Nat) (value : N) :
    level.Passes rest (Loop.loop level.operator? (Loop.reader nesting level.above) last.length value last).2 := by
  constructor
  · exact Nat.le_trans (Loop.loop_length Loop.reader_shortens _ value last) passes.length_le
  · intro stops
    rw [passes.exact stops.above, Loop.loop_of_stops stops]

theorem Covers.alone (covers : level.above.Covers N operand) : level.Covers N operand := by
  intro nesting rest short
  obtain ⟨value, last, read, passes⟩ := covers nesting rest short
  exact ⟨_, _, Loop.reader_of_above read, passes.loop nesting value⟩

/-- In front of a tail the operand is read exactly. -/
theorem Covers.chain (covers : level.above.Covers N operand) (chains : level.Chains N tail) :
    level.Covers N (operand ++ tail) := by
  intro nesting rest short
  rw [List.append_assoc] at short ⊢
  obtain ⟨value, last, read, passes⟩ := covers nesting (tail ++ rest) short
  obtain rfl := passes.exact (chains.stops rest)
  have shorter : (tail ++ rest).length < nesting := by
    rw [List.length_append] at short
    omega
  exact ⟨_, _, Loop.reader_of_above read, chains.passes nesting rest value shorter⟩

variable {sign : Char} {operator : Operator}

theorem Chains.last (signed : level.operator? sign = some operator) (covers : level.above.Covers N operand) :
    level.Chains N (sign :: operand) := by
  refine ⟨fun rest => stops_of_operator? signed (operand ++ rest), ?_⟩
  intro nesting rest value short
  obtain ⟨right, last, read, passes⟩ := covers nesting rest (Nat.lt_of_succ_lt short)
  rw [List.cons_append, Loop.loop_cons Loop.reader_shortens signed read]
  exact passes.loop nesting _

theorem Chains.link (signed : level.operator? sign = some operator) (covers : level.above.Covers N operand)
    (chains : level.Chains N tail) : level.Chains N (sign :: operand ++ tail) := by
  refine ⟨fun rest => stops_of_operator? signed (operand ++ tail ++ rest), ?_⟩
  intro nesting rest value short
  rw [List.append_assoc, List.cons_append] at short ⊢
  obtain ⟨right, last, read, passes⟩ := covers nesting (tail ++ rest) (Nat.lt_of_succ_lt short)
  obtain rfl := passes.exact (chains.stops rest)
  have shorter : (tail ++ rest).length < nesting := by
    simp only [List.length_cons, List.length_append] at short ⊢
    omega
  rw [Loop.loop_cons Loop.reader_shortens signed read]
  exact chains.passes nesting rest _ shorter

theorem covers_numeral (numeral : Numeral) : Level.factor.Covers N numeral.text := by
  intro nesting rest short
  obtain ⟨nesting, rfl⟩ := Nat.exists_eq_succ_of_ne_zero (Nat.ne_zero_of_lt short)
  obtain ⟨longer, last, scanned, length_le, exact_scan⟩ := Numeral.scan?_text numeral rest
  refine ⟨_, last, Loop.factorWithin_numeral scanned nesting, length_le, ?_⟩
  intro stops
  exact (exact_scan stops).2

/-- The closing parenthesis stops the sum. -/
theorem Covers.group {inner : Text} (covers : Level.sum.Covers N inner) :
    Level.factor.Covers N ('(' :: inner ++ [')']) := by
  intro nesting rest short
  obtain ⟨nesting, rfl⟩ := Nat.exists_eq_succ_of_ne_zero (Nat.ne_zero_of_lt short)
  have grouped : '(' :: inner ++ [')'] ++ rest = '(' :: (inner ++ ')' :: rest) := by simp
  rw [grouped] at short ⊢
  obtain ⟨value, last, read, passes⟩ := covers nesting (')' :: rest) (Nat.lt_of_succ_lt_succ short)
  obtain rfl := passes.exact (Level.stops_closing rest)
  exact ⟨value, rest, Loop.factorWithin_group read, Nat.le_refl _, fun _ => rfl⟩

theorem Covers.negation (covers : Level.factor.Covers N operand) : Level.factor.Covers N ('-' :: operand) := by
  intro nesting rest short
  obtain ⟨nesting, rfl⟩ := Nat.exists_eq_succ_of_ne_zero (Nat.ne_zero_of_lt short)
  obtain ⟨value, last, read, passes⟩ := covers nesting rest (Nat.lt_of_succ_lt_succ short)
  exact ⟨-value, last, (Loop.factorWithin_negation nesting _).trans (congrArg (Option.map _) read), passes⟩

end Level

def Category.Covers (N : Type) [Arithmetic N] : Category → Text → Prop
  | sum => Level.sum.Covers N
  | sumTail => Level.sum.Chains N
  | product => Level.product.Covers N
  | productTail => Level.product.Chains N
  | factor => Level.factor.Covers N

variable {N : Type} [Arithmetic N]

theorem Loop.exists_additive? {sign : Char} (member : sign ∈ additiveSigns) :
    ∃ operator, Level.sum.operator? sign = some operator := by
  rcases Loop.mem_additiveSigns.mp member with rfl | rfl
  · exact ⟨.add, rfl⟩
  · exact ⟨.sub, rfl⟩

theorem Loop.exists_multiplicative? {sign : Char} (member : sign ∈ multiplicativeSigns) :
    ∃ operator, Level.product.operator? sign = some operator := by
  rcases Loop.mem_multiplicativeSigns.mp member with rfl | rfl
  · exact ⟨.mul, rfl⟩
  · exact ⟨.div, rfl⟩

theorem Derives.covers {category : Category} {text : Text} (derives : Derives category text) :
    category.Covers N text := by
  induction derives with
  | sumChain _ _ operand tail => exact Level.Covers.chain operand tail
  | sumAlone _ operand => exact Level.Covers.alone operand
  | sumLink member _ _ operand tail =>
    obtain ⟨operator, signed⟩ := Loop.exists_additive? member
    exact Level.Chains.link signed operand tail
  | sumLast member _ operand =>
    obtain ⟨operator, signed⟩ := Loop.exists_additive? member
    exact Level.Chains.last signed operand
  | productChain _ _ operand tail => exact Level.Covers.chain operand tail
  | productAlone _ operand => exact Level.Covers.alone operand
  | productLink member _ _ operand tail =>
    obtain ⟨operator, signed⟩ := Loop.exists_multiplicative? member
    exact Level.Chains.link signed operand tail
  | productLast member _ operand =>
    obtain ⟨operator, signed⟩ := Loop.exists_multiplicative? member
    exact Level.Chains.last signed operand
  | numeral numeral => exact Level.covers_numeral numeral
  | group _ inner => exact Level.Covers.group inner
  | negation _ operand => exact Level.Covers.negation operand

/-- An expression at the start of a text is read to its end or further. -/
theorem Derives.sum_passes {part : Text} (derives : Derives .sum part) (rest : Text) : ∃ (value : N) (tail : Text),
    Loop.sum (part ++ rest) = some (value, tail) ∧ Level.sum.Passes rest tail :=
  derives.covers _ rest (Nat.lt_succ_self _)

/-- In front of a text that stops the rule, an expression is read exactly. -/
theorem Derives.sum_exact {part rest : Text} (derives : Derives .sum part) (stops : Level.sum.Stops rest) :
    ∃ value : N, Loop.sum (part ++ rest) = some (value, rest) := by
  obtain ⟨value, tail, read, passes⟩ := (derives.sum_passes rest : ∃ (value : N) (tail : Text), _)
  exact ⟨value, passes.exact stops ▸ read⟩

/-- Where an expression ends in front of such a text is determined. -/
theorem Derives.sum_unique {part other rest more : Text} (derives : Derives .sum part) (derivesOther : Derives .sum other)
    (stops : Level.sum.Stops rest) (stopsMore : Level.sum.Stops more) (same : part ++ rest = other ++ more) :
    rest = more := by
  obtain ⟨value, read⟩ := (derives.sum_exact stops : ∃ value : Float, _)
  obtain ⟨found, again⟩ := (derivesOther.sum_exact stopsMore : ∃ value : Float, _)
  rw [same, again] at read
  cases read
  rfl

theorem Loop.sum_sound {input tail : Text} {value : N} (read : Loop.sum input = some (value, tail)) :
    ∃ part, input = part ++ tail ∧ Derives .sum part :=
  Loop.sumOf_sound _ input value tail read

theorem Loop.sum_longest {input tail : Text} {value : N} (read : Loop.sum input = some (value, tail)) :
    ∃ part, input = part ++ tail ∧ Text.IsLongest (Derives .sum) part input := by
  obtain ⟨part, rfl, derives⟩ := Loop.sum_sound read
  refine ⟨part, rfl, List.prefix_append part tail, derives, ?_⟩
  rintro other ⟨rest, same⟩ longer
  obtain ⟨value, last, again, passes⟩ := (longer.sum_passes rest : ∃ (value : N) (last : Text), _)
  rw [same, read] at again
  cases again
  have lengths := congrArg List.length same
  have behind := passes.length_le
  simp only [List.length_append] at lengths
  omega

/-- The rule of expressions succeeds where the text begins with an expression and takes
the longest. A whole text is parsed exactly if it is an expression. -/
theorem expressions_match_longest (input : Text) :
    ∃ reply, (grammar N).apply (.rule .sum) input = some reply ∧
      (match reply.outcome with
        | .ok success => ∃ part, input = part ++ success.tail ∧ Text.IsLongest (Derives .sum) part input
        | .error _ => ∀ part, part <+: input → ¬ Derives .sum part) ∧
      ((∃ value, (grammar N).parseAll (.rule .sum) input = some (.ok value)) ↔ Derives .sum input) := by
  obtain ⟨⟨trace, outcome⟩, ran, reads⟩ := Grammar.apply_reads (apply_reads_sum (N := N) input)
  refine ⟨⟨trace, outcome⟩, ran, ?_, ?_⟩
  · cases outcome with
    | ok success => exact Loop.sum_longest reads.symm
    | error refusal =>
      rintro part ⟨rest, rfl⟩ derives
      obtain ⟨value, tail, read, passes⟩ := (derives.sum_passes rest : ∃ (value : N) (tail : Text), _)
      rw [read] at reads
      cases reads
  · constructor
    · rintro ⟨value, parsed⟩
      have read := (apply_reads_sum input).unique (Grammar.parseAll_eq_ok_iff.mp parsed)
      obtain ⟨part, rfl, derives⟩ := Loop.sum_sound read
      rwa [List.append_nil]
    · intro derives
      obtain ⟨value, read⟩ := (derives.sum_exact Level.Stops.nil : ∃ value : N, _)
      rw [List.append_nil] at read
      exact ⟨value, Grammar.parseAll_eq_ok_iff.mpr (read ▸ apply_reads_sum input)⟩

end Backtrack.Arithmetic
