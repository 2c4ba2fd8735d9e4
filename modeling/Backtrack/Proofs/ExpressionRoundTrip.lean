import Backtrack.Proofs.LoopEvaluation
import Backtrack.Proofs.LoopLevels

/-! Parsing undoes printing. Where an expression was printed for a level, the reader of
that level comes to the expression's value and has its loop before it. So the value
of a left operand is where the loop starts, and the parentheses that were printed are
the ones that reading needs. -/

namespace Backtrack.Arithmetic

namespace Operator

theorem level_operator? (operator : Operator) : operator.level.operator? operator.sign = some operator := by
  cases operator <;> rfl

theorem level_eq (operator : Operator) : operator.level = .sum ∨ operator.level = .product := by
  cases operator <;> decide

end Operator

namespace Expression

theorem textAt_bare {operator : Operator} {level : Level} (loose : level.rank ≤ operator.level.rank)
    (left right : Expression) : (binary operator left right).textAt level =
      left.textAt operator.level ++ operator.sign :: right.textAt operator.level.above := by
  simp only [textAt]
  exact if_neg (Nat.not_lt.mpr loose)

theorem textAt_grouped {operator : Operator} {level : Level} (tight : operator.level.rank < level.rank)
    (left right : Expression) : (binary operator left right).textAt level =
      '(' :: (binary operator left right).text ++ [')'] := by
  have bare := textAt_bare (show Level.sum.rank ≤ operator.level.rank from Nat.zero_le _) left right
  rw [text, bare]
  simp only [textAt]
  exact if_pos tight

/-- The reader gets through the text to the value, and its loop goes on from there. -/
def ReadBack (N : Type) [Arithmetic N] (nesting : Nat) (level : Level) (expression : Expression) : Prop :=
  ∀ rest, (expression.textAt level ++ rest).length < nesting → level.above.Stops rest →
    Loop.reader nesting level (expression.textAt level ++ rest) =
      some (Loop.loop level.operator? (Loop.reader nesting level.above) rest.length (expression.value : N) rest)

variable {N : Type} [Arithmetic N] {nesting : Nat} {level : Level} {expression : Expression}

theorem ReadBack.exact (back : ReadBack N nesting level expression) {rest : Text}
    (short : (expression.textAt level ++ rest).length < nesting) (stops : level.Stops rest) :
    Loop.reader nesting level (expression.textAt level ++ rest) = some ((expression.value : N), rest) := by
  rw [back rest short stops.above, Loop.loop_of_stops stops]

theorem ReadBack.of_above (same : expression.textAt level = expression.textAt level.above)
    (back : ReadBack N nesting level.above expression) : ReadBack N nesting level expression := by
  intro rest short stops
  rw [same] at short ⊢
  exact Loop.reader_of_above (back.exact short stops)

theorem ReadBack.of_factor (same : ∀ level, expression.textAt level = expression.textAt .factor)
    (back : ReadBack N nesting .factor expression) (level : Level) : ReadBack N nesting level expression := by
  have product : ReadBack N nesting .product expression := .of_above (same .product) back
  cases level with
  | sum => exact .of_above ((same .sum).trans (same .product).symm) product
  | product => exact product
  | factor => exact back

theorem readBack_numeral (literal : Numeral) : ReadBack N nesting .factor (numeral literal) := by
  intro rest short stops
  obtain ⟨nesting, rfl⟩ := Nat.exists_eq_succ_of_ne_zero (Nat.ne_zero_of_lt short)
  obtain ⟨longer, tail, scanned, _, exact_scan⟩ := Numeral.scan?_text literal rest
  obtain ⟨rfl, rfl⟩ := exact_scan stops
  rw [Loop.loop_of_stops (show Level.factor.Stops tail from stops)]
  exact Loop.factorWithin_numeral scanned nesting

theorem readBack_negation (operand : ∀ nesting, ReadBack N nesting .factor expression) :
    ReadBack N nesting .factor (negation expression) := by
  intro rest short stops
  obtain ⟨nesting, rfl⟩ := Nat.exists_eq_succ_of_ne_zero (Nat.ne_zero_of_lt short)
  have read := (operand nesting).exact (Nat.lt_of_succ_lt_succ short) stops
  rw [Loop.loop_of_stops (show Level.factor.Stops rest from stops)]
  exact (Loop.factorWithin_negation nesting _).trans (congrArg (Option.map _) read)

theorem readBack_group (tight : ∀ nesting, ReadBack N nesting .sum expression)
    (grouped : expression.textAt .factor = '(' :: expression.text ++ [')']) : ReadBack N nesting .factor expression := by
  intro rest short stops
  obtain ⟨nesting, rfl⟩ := Nat.exists_eq_succ_of_ne_zero (Nat.ne_zero_of_lt short)
  have inner : '(' :: expression.text ++ [')'] ++ rest = '(' :: (expression.textAt .sum ++ ')' :: rest) := by
    simp [text]
  rw [grouped, inner] at short ⊢
  have read := (tight nesting).exact (Nat.lt_of_succ_lt_succ short) (Level.stops_closing rest)
  rw [Loop.loop_of_stops (show Level.factor.Stops rest from stops)]
  exact Loop.factorWithin_group read

/-- The left operand leaves a loop that begins with the operator. Its first round takes
the right operand. -/
theorem readBack_binary {operator : Operator} {left right : Expression}
    (lefts : ReadBack N nesting operator.level left) (rights : ReadBack N nesting operator.level.above right) :
    ReadBack N nesting operator.level (binary operator left right) := by
  intro rest short stops
  have bare := textAt_bare (Nat.le_refl operator.level.rank) left right
  rw [bare, List.append_assoc] at short ⊢
  have signed := operator.level_operator?
  have first := lefts (operator.sign :: right.textAt operator.level.above ++ rest) short
    (Level.stops_of_operator? signed _)
  have shorter : (right.textAt operator.level.above ++ rest).length < nesting := by
    simp only [List.length_append, List.length_cons] at short ⊢
    omega
  have second := rights.exact shorter stops
  refine first.trans (congrArg some ?_)
  exact Loop.loop_cons Loop.reader_shortens signed second left.value

theorem readBack (expression : Expression) (nesting : Nat) (level : Level) : ReadBack N nesting level expression := by
  induction expression generalizing nesting level with
  | numeral literal => exact .of_factor (fun _ => rfl) (readBack_numeral literal) level
  | negation operand ih => exact .of_factor (fun _ => rfl) (readBack_negation fun nesting => ih nesting .factor) level
  | binary operator left right lefts rights =>
    have own (nesting : Nat) : ReadBack N nesting operator.level (binary operator left right) :=
      readBack_binary (lefts nesting _) (rights nesting _)
    have sums (nesting : Nat) : ReadBack N nesting .sum (binary operator left right) := by
      rcases operator.level_eq with tier | tier
      · exact tier ▸ own nesting
      · refine .of_above ?_ (show ReadBack N nesting .product _ from tier ▸ own nesting)
        rw [textAt_bare (Nat.zero_le _), textAt_bare (by rw [tier]; decide)]
    have factors : ReadBack N nesting .factor (binary operator left right) := by
      refine readBack_group sums (textAt_grouped ?_ left right)
      cases operator <;> decide
    cases level with
    | sum => exact sums nesting
    | factor => exact factors
    | product =>
      rcases operator.level_eq with tier | tier
      · refine .of_above ?_ factors
        rw [textAt_grouped (by rw [tier]; decide), textAt_grouped (by rw [tier]; decide)]
      · exact tier ▸ own nesting

end Expression

variable {N : Type} [Arithmetic N]

/-- A printed expression is read as the value of its tree, up to a text that no
expression goes on with. In particular all of it is parsed. -/
theorem expressions_round_trip (expression : Expression) {rest : Text} (stops : Level.sum.Stops rest) :
    (∃ trace, (grammar N).apply (.rule .sum) (expression.text ++ rest) = some ⟨trace, .ok ⟨rest, expression.value⟩⟩) ∧
      (grammar N).parseAll (.rule .sum) expression.text = some (.ok expression.value) := by
  have read {rest : Text} (stops : Level.sum.Stops rest) :
      Loop.sum (expression.text ++ rest) = some ((expression.value : N), rest) :=
    (Expression.readBack expression _ .sum).exact (Nat.lt_succ_self _) stops
  have reads {rest : Text} (stops : Level.sum.Stops rest) :
      (grammar N).Reads _ (.rule .sum) (expression.text ++ rest) (some (expression.value, rest)) :=
    read stops ▸ apply_reads_sum (expression.text ++ rest)
  constructor
  · exact Grammar.apply_eq_ok_iff.mpr (reads stops)
  · have whole := reads Level.Stops.nil
    rw [List.append_nil] at whole
    exact Grammar.parseAll_eq_ok_iff.mpr whole

/-- Differences group to the left, in front of a parenthesis that belongs to something else. -/
theorem difference_round_trips : Level.sum.Stops [')'] ∧ ∃ expression : Expression,
    expression.text = ['8', '-', '4', '-', '2'] ∧ expression.value = (2 : Rat) ∧
      ∃ trace, (grammar Rat).apply (.rule .sum) (expression.text ++ [')']) =
        some ⟨trace, .ok ⟨[')'], expression.value⟩⟩ := by
  have stops : Level.sum.Stops [')'] := Level.stops_closing []
  refine ⟨stops, .binary .sub (.binary .sub (.numeral ⟨.leading 8 (by decide) [], []⟩)
    (.numeral ⟨.leading 4 (by decide) [], []⟩)) (.numeral ⟨.leading 2 (by decide) [], []⟩), rfl, ?_, ?_⟩
  · decide +kernel
  · exact (expressions_round_trip _ stops).1

end Backtrack.Arithmetic
