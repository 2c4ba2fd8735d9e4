import Backtrack.Proofs.LoopEvaluation

/-! The rules of expressions against evaluation in one pass. The loops carry bounds on their
rounds and on the nesting, and neither is ever met: what is left are the plain equations
of an evaluator that takes each operand once. The rules, which try a chain of operators
first and read its operand again without it, answer as the loops do. -/

namespace Backtrack.Arithmetic

namespace Loop

variable {N : Type} [Arithmetic N]

/-- The reader takes an operand and goes on with its value. As long as an operator and an operand
follow, the value so far is replaced by the result. In front of anything else it stops. -/
structure IsLoop (operator? : Char → Option Operator) (operand whole : Reader N) (goOn : N → Text → N × Text) : Prop where
  start : ∀ input, whole input = (operand input).map fun (value, rest) => goOn value rest
  round : ∀ {sign rest tail operator right}, operator? sign = some operator → operand rest = some (right, tail) →
    ∀ value, goOn value (sign :: rest) = goOn (operator.apply value right) tail
  stop : ∀ {rest}, (∀ sign more, rest = sign :: more → operator? sign = none ∨ operand more = none) →
    ∀ value, goOn value rest = (value, rest)

/-- Evaluation in one pass. The first character decides how a factor is read. -/
structure IsOnePass (factor product sum : Reader N) : Prop where
  empty : factor [] = none
  numeral : ∀ c rest, (Numeral.digit? c).isSome →
    factor (c :: rest) = (Numeral.scan? (c :: rest)).map fun (numeral, tail) => (numeral.value, tail)
  group : ∀ inner, factor ('(' :: inner) =
    match sum inner with
    | some (value, ')' :: tail) => some (value, tail)
    | _ => none
  negation : ∀ inner, factor ('-' :: inner) = (factor inner).map fun (value, tail) => (-value, tail)
  other : ∀ c rest, Numeral.digit? c = none → c ≠ '(' → c ≠ '-' → factor (c :: rest) = none
  products : ∃ goOn, IsLoop multiplicative? factor product goOn
  sums : ∃ goOn, IsLoop additive? product sum goOn

variable {operator? : Char → Option Operator} {operand : Reader N}

/-- A bound that is as long as the text is none. -/
theorem level_isLoop (shortens : operand.Shortens) : IsLoop operator? operand (level operator? operand)
    fun value rest => loop operator? operand rest.length value rest where
  start := fun _ => rfl
  round := loop_cons shortens
  stop := by
    intro rest stuck value
    cases rest with
    | nil => exact loop_nil _ value
    | cons sign more => exact loop_stop (stuck sign more rfl) _ value

theorem factor_shortens : (factor : Reader N).Shortens :=
  fun input => (factorWithin_sound (input.length + 1)).shortens input

theorem product_shortens : (product : Reader N).Shortens :=
  fun input => (productOf_sound (input.length + 1)).shortens input

end Loop

variable {N : Type} [Arithmetic N]

/-! ## The loops without bounds -/

theorem readsAs_factor (bound : Nat) : ReadsAs (.factor : Rule N N) Loop.factor bound 3 :=
  fun input depth _ deep => reads_factor (input.length + 1) input depth (Nat.lt_succ_self _) deep

theorem readsAs_product (bound : Nat) : ReadsAs (.product : Rule N N) Loop.product bound 4 :=
  fun input depth _ deep => reads_whole products_are_level (reads_factor (input.length + 1))
    (Loop.factorWithin_sound _).shortens input depth (Nat.lt_succ_self _) deep

theorem readsAs_sum (bound : Nat) : ReadsAs (.sum : Rule N N) Loop.sum bound 5 :=
  fun input _ _ deep => reads_sum input deep

/-- Both are what one rule reads, and a rule reads only one thing. -/
theorem ReadsAs.unique {name : Rule N α} {reader other : Text → Option (α × Text)} {offset : Nat}
    (first : ∀ bound, ReadsAs name reader bound offset) (second : ∀ bound, ReadsAs name other bound offset) :
    reader = other := by
  funext input
  have left := first (input.length + 1) input (3 * input.length + offset) (Nat.lt_succ_self _) (Nat.le_refl _)
  have right := second (input.length + 1) input (3 * input.length + offset) (Nat.lt_succ_self _) (Nat.le_refl _)
  exact left.unique right

theorem Loop.product_eq : (Loop.product : Loop.Reader N) = Loop.level Loop.multiplicative? Loop.factor :=
  ReadsAs.unique readsAs_product fun bound =>
    reads_whole products_are_level (readsAs_factor bound) Loop.factor_shortens

theorem Loop.sum_eq : (Loop.sum : Loop.Reader N) = Loop.level Loop.additive? Loop.product :=
  ReadsAs.unique readsAs_sum fun bound => reads_whole sums_are_level (readsAs_product bound) Loop.product_shortens

/-- The loops that are bounded obey the equations that are not. -/
theorem Loop.isOnePass : Loop.IsOnePass (Loop.factor : Loop.Reader N) Loop.product Loop.sum where
  empty := rfl
  numeral := by
    intro c rest isDigit
    rw [← Numeral.scan?_isSome c rest] at isDigit
    obtain ⟨⟨numeral, tail⟩, scanned⟩ := Option.isSome_iff_exists.mp isDigit
    rw [scanned]
    exact Loop.factorWithin_numeral scanned _
  group := fun _ => rfl
  negation := fun _ => rfl
  other := by
    intro c rest noDigit noGroup noNegation
    have unscanned : Numeral.scan? (c :: rest) = none := by
      apply Option.not_isSome_iff_eq_none.mp
      rw [Numeral.scan?_isSome, noDigit]
      exact Bool.false_ne_true
    refine Loop.factorWithin_other unscanned ?_ ?_ _
    · exact fun inner same => noGroup (List.head_eq_of_cons_eq same)
    · exact fun inner same => noNegation (List.head_eq_of_cons_eq same)
  products := by
    rw [Loop.product_eq]
    exact ⟨_, Loop.level_isLoop Loop.factor_shortens⟩
  sums := by
    rw [Loop.sum_eq]
    exact ⟨_, Loop.level_isLoop Loop.product_shortens⟩

/-- On every input the rules of factors, products and sums answer as evaluation in one pass does:
both are refused, or both succeed with the same value and the same rest. The numerals are
those of the grammar. The value is the same in every arithmetic, so it comes of the
same operations in the same order. -/
theorem rules_evaluate_in_one_pass :
    Loop.IsOnePass (Loop.factor : Loop.Reader N) Loop.product Loop.sum ∧ ∀ input,
      ((grammar N).apply (.rule .factor) input).map Reply.reading = some (Loop.factor input) ∧
      ((grammar N).apply (.rule .product) input).map Reply.reading = some (Loop.product input) ∧
      ((grammar N).apply (.rule .sum) input).map Reply.reading = some (Loop.sum input) ∧
      ((grammar N).apply number input).map Reply.reading =
        some ((Numeral.scan? input).map fun (numeral, rest) => ((numeral.value : N), rest)) := by
  refine ⟨Loop.isOnePass, fun input => ?_⟩
  have limit : (grammar N).limit input = 6 * (input.length + 2) := rfl
  have deep : 3 * input.length + 5 ≤ (grammar N).limit input := by omega
  exact ⟨readsAs_factor _ input _ (Nat.lt_succ_self _) (by omega),
    readsAs_product _ input _ (Nat.lt_succ_self _) (by omega), readsAs_sum _ input _ (Nat.lt_succ_self _) deep,
    reads_number input (by omega)⟩

end Backtrack.Arithmetic
