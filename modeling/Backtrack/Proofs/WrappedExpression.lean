import Backtrack.Proofs.LongestExpression
import Backtrack.Proofs.NumeralRecords
import Backtrack.Proofs.Termination
import Mathlib.Algebra.Group.Nat.Defs

/-! What parentheses cost. A rule that finds its text in front of anything that stops its level
reads the same value and leaves as many records wherever that text stands. A sum
reads its only product twice, and a product its only factor, so each pair of
parentheses takes the records inside four times. -/

namespace Backtrack.Arithmetic

open Grammar

/-! ## Signs -/

variable {N : Type} [Arithmetic N]

/-- The rules of one level, and signs that leave as many records whatever stands behind them. -/
structure IsCounted (level : Level) (sign : Parser (Rule N) Operator) (operand whole : Rule N N)
    (tail : Rule N (Chain N)) : Prop extends IsLevel level.operator? sign operand whole tail where
  refused : ∀ rest, level.Stops rest → (grammar N).Costs sign rest 3 none
  signed : ∀ c operator, level.operator? c = some operator → ∃ count, ∀ rest,
    (grammar N).Costs sign (c :: rest) count (some (operator, rest))

abbrev signs (first second : Char) (left right : Operator) : Parser (Rule N) Operator :=
  .alt (operator (.oneOf [first]) left) (operator (.oneOf [second]) right)

theorem costs_signs {first second c : Char} {left right operator : Operator}
    (signed : (if c = first then some left else if c = second then some right else none) = some operator) :
    ∃ count, ∀ rest, (grammar N).Costs (signs first second left right) (c :: rest) count (some (operator, rest)) := by
  split at signed
  next isFirst =>
    cases signed
    exact ⟨0, fun rest => isFirst ▸ ((costs_symbol c rest).map _).alt⟩
  next notFirst =>
    split at signed
    next isSecond =>
      cases signed
      refine ⟨1 + 1 + 0, fun rest => Costs.alt_refused ?_ (isSecond ▸ (costs_symbol c rest).map _)⟩
      refine (costs_symbol_refused fun d first => ?_).map _
      cases first
      exact notFirst
    next => cases signed

theorem costs_signs_refused {first second : Char} {left right : Operator} {rest : Text}
    (noFirst : ∀ c ∈ rest.head?, c ≠ first) (noSecond : ∀ c ∈ rest.head?, c ≠ second) :
    (grammar N).Costs (signs first second left right) rest 3 none :=
  ((costs_symbol_refused noFirst).map _).alt_refused ((costs_symbol_refused noSecond).map _)

theorem Level.Stops.head_ne {level : Level} {rest : Text} {sign : Char} (stops : level.Stops rest)
    (continuing : sign ∈ level.continuing) : ∀ c ∈ rest.head?, c ≠ sign := by
  intro c first same
  exact stops c first (same ▸ continuing)

theorem sums_are_counted : IsCounted .sum (additive : Parser (Rule N) Operator) .product .sum .sumTail where
  toIsLevel := sums_are_level
  refused := fun _ stops => costs_signs_refused (stops.head_ne (by decide)) (stops.head_ne (by decide))
  signed := fun c _ signed => costs_signs ((Loop.additive?_eq c).symm.trans signed)

theorem products_are_counted :
    IsCounted .product (multiplicative : Parser (Rule N) Operator) .factor .product .productTail where
  toIsLevel := products_are_level
  refused := fun _ stops => costs_signs_refused (stops.head_ne (by decide)) (stops.head_ne (by decide))
  signed := fun c _ signed => costs_signs ((Loop.multiplicative?_eq c).symm.trans signed)

/-! ## One level -/

namespace Level

/-- Wherever the level stops behind the text, the rule reads the text as this value and
leaves this many records. -/
def Steady (level : Level) (name : Rule N α) (text : Text) (count : Nat) (value : α) : Prop :=
  ∀ rest, level.Stops rest → (grammar N).Costs (.rule name) (text ++ rest) count (some (value, rest))

/-- The text is read as one value and at one cost, whichever they are. -/
def IsSteady (level : Level) (name : Rule N α) (text : Text) : Prop := ∃ count value, level.Steady name text count value

variable {level : Level} {sign : Parser (Rule N) Operator} {operand whole : Rule N N} {tail : Rule N (Chain N)}
  {text more : Text} {count : Nat} {value : N}

theorem costs_whole (counted : IsCounted level sign operand whole tail) {input : Text} {result : Option (N × Text)}
    (body : (grammar N).Costs (chained operand tail) input count result) :
    (grammar N).Costs (.rule whole) input count result := by
  apply Costs.rule
  rwa [show (grammar N).body whole = _ from counted.whole_body]

theorem costs_tail (counted : IsCounted level sign operand whole tail) {input : Text} {result : Option (Chain N × Text)}
    (body : (grammar N).Costs (links sign operand tail) input count result) :
    (grammar N).Costs (.rule tail) input count result := by
  apply Costs.rule
  rwa [show (grammar N).body tail = _ from counted.tail_body]

theorem costs_tail_refused (counted : IsCounted level sign operand whole tail) {rest : Text} (stops : level.Stops rest) :
    (grammar N).Costs (.rule tail) rest 7 none := by
  have refused := counted.refused rest stops
  exact costs_tail counted ((refused.seq_refused.map _).alt_refused (refused.seq_refused.map _))

/-- The operand is read again once no operator was found behind it. -/
theorem Steady.alone (counted : IsCounted level sign operand whole tail)
    (steady : level.above.Steady operand text count value) : level.Steady whole text (2 * count + 8) value := by
  intro rest stops
  have read := steady rest stops.above
  have total : 2 * count + 8 = count + 7 + 1 + count := by omega
  rw [total]
  exact costs_whole counted (((read.seq (costs_tail_refused counted stops)).map _).alt_refused read)

theorem IsSteady.alone (counted : IsCounted level sign operand whole tail) (steady : level.above.IsSteady operand text) :
    level.IsSteady whole text := by
  obtain ⟨count, value, steady⟩ := steady
  exact ⟨_, value, steady.alone counted⟩

theorem IsSteady.chain (counted : IsCounted level sign operand whole tail) (stops : ∀ rest, level.above.Stops (more ++ rest))
    (first : level.above.IsSteady operand text) (later : level.IsSteady tail more) :
    level.IsSteady whole (text ++ more) := by
  obtain ⟨count, left, first⟩ := first
  obtain ⟨others, links, later⟩ := later
  refine ⟨count + others, links.applyTo left, fun rest outer => ?_⟩
  rw [List.append_assoc]
  exact costs_whole counted (((first _ (stops rest)).seq (later rest outer)).map _).alt

variable {c : Char} {operator : Operator}

theorem IsSteady.last (counted : IsCounted level sign operand whole tail) (signed : level.operator? c = some operator)
    (steady : level.above.IsSteady operand text) : level.IsSteady tail (c :: text) := by
  obtain ⟨before, sign⟩ := counted.signed c operator signed
  obtain ⟨count, right, steady⟩ := steady
  refine ⟨before + (count + 7) + 1 + (before + count), [(operator, right)], fun rest stops => ?_⟩
  have read := steady rest stops.above
  have unlinked := read.seq (costs_tail_refused counted stops)
  exact costs_tail counted ((((sign _).seq unlinked).map _).alt_refused (((sign _).seq read).map _))

theorem IsSteady.link (counted : IsCounted level sign operand whole tail) (signed : level.operator? c = some operator)
    (stops : ∀ rest, level.above.Stops (more ++ rest)) (first : level.above.IsSteady operand text)
    (later : level.IsSteady tail more) : level.IsSteady tail (c :: text ++ more) := by
  obtain ⟨before, sign⟩ := counted.signed c operator signed
  obtain ⟨count, right, first⟩ := first
  obtain ⟨others, links, later⟩ := later
  refine ⟨before + (count + others), (operator, right) :: links, fun rest outer => ?_⟩
  rw [List.append_assoc]
  exact costs_tail counted (((sign _).seq ((first _ (stops rest)).seq (later rest outer))).map _).alt

/-! ## Factors -/

theorem costs_factor {input : Text} {result : Option (N × Text)}
    (body : (grammar N).Costs (.alt (.alt number group) negation) input count result) :
    (grammar N).Costs (.rule .factor) input count result :=
  Costs.rule body

theorem isSteady_numeral (numeral : Numeral) : Level.factor.IsSteady (.factor : Rule N N) numeral.text := by
  obtain ⟨count, read⟩ := costs_number (grammar N) N numeral
  exact ⟨count, numeral.value, fun rest stops => costs_factor (read rest stops).alt.alt⟩

/-- A number is tried in front of the group. The closing parenthesis stops the sum. -/
theorem steady_group (steady : Level.sum.Steady .sum text count value) :
    Level.factor.Steady .factor ('(' :: text ++ [')']) (count + 4) value := by
  intro rest _
  have grouped : '(' :: text ++ [')'] ++ rest = '(' :: (text ++ ')' :: rest) := by simp
  have total : count + 4 = 3 + 1 + (0 + (count + 0)) := by omega
  rw [grouped, total]
  have read := steady (')' :: rest) (Level.stops_closing rest)
  have closed := ((costs_symbol '(' (text ++ ')' :: rest)).seq (read.seq (costs_symbol ')' rest))).map
    fun (_, value, _) => value
  exact costs_factor ((costs_number_refused rfl).alt_refused closed).alt

theorem isSteady_group (steady : Level.sum.IsSteady (.sum : Rule N N) text) :
    Level.factor.IsSteady (.factor : Rule N N) ('(' :: text ++ [')']) := by
  obtain ⟨count, value, steady⟩ := steady
  exact ⟨_, value, steady_group steady⟩

theorem isSteady_negation (steady : Level.factor.IsSteady (.factor : Rule N N) text) :
    Level.factor.IsSteady (.factor : Rule N N) ('-' :: text) := by
  obtain ⟨count, value, steady⟩ := steady
  refine ⟨3 + 1 + 1 + 1 + (0 + count), -value, fun rest stops => ?_⟩
  have noGroup : (grammar N).Costs group ('-' :: (text ++ rest)) 1 none := by
    refine ((costs_symbol_refused fun c first => ?_).seq_refused).map _
    cases first
    decide
  have negated := ((costs_symbol '-' (text ++ rest)).seq (steady rest stops)).map fun (_, value) => -value
  exact costs_factor (((costs_number_refused rfl).alt_refused noGroup).alt_refused negated)

end Level

/-! ## All levels -/

def Category.IsSteady (N : Type) [Arithmetic N] : Category → Text → Prop
  | sum => Level.sum.IsSteady (.sum : Rule N N)
  | sumTail => Level.sum.IsSteady (.sumTail : Rule N (Chain N))
  | product => Level.product.IsSteady (.product : Rule N N)
  | productTail => Level.product.IsSteady (.productTail : Rule N (Chain N))
  | factor => Level.factor.IsSteady (.factor : Rule N N)

theorem Derives.sumTail_stops {tail : Text} (derives : Derives .sumTail tail) (rest : Text) :
    Level.product.Stops (tail ++ rest) :=
  (derives.covers : Level.sum.Chains Float tail).stops rest

theorem Derives.productTail_stops {tail : Text} (derives : Derives .productTail tail) (rest : Text) :
    Level.factor.Stops (tail ++ rest) :=
  (derives.covers : Level.product.Chains Float tail).stops rest

theorem Derives.isSteady {category : Category} {text : Text} (derives : Derives category text) :
    category.IsSteady N text := by
  induction derives with
  | sumChain _ derives operand tail => exact operand.chain sums_are_counted derives.sumTail_stops tail
  | sumAlone _ operand => exact operand.alone sums_are_counted
  | sumLink member _ derives operand tail =>
    obtain ⟨operator, signed⟩ := Loop.exists_additive? member
    exact operand.link sums_are_counted signed derives.sumTail_stops tail
  | sumLast member _ operand =>
    obtain ⟨operator, signed⟩ := Loop.exists_additive? member
    exact operand.last sums_are_counted signed
  | productChain _ derives operand tail => exact operand.chain products_are_counted derives.productTail_stops tail
  | productAlone _ operand => exact operand.alone products_are_counted
  | productLink member _ derives operand tail =>
    obtain ⟨operator, signed⟩ := Loop.exists_multiplicative? member
    exact operand.link products_are_counted signed derives.productTail_stops tail
  | productLast member _ operand =>
    obtain ⟨operator, signed⟩ := Loop.exists_multiplicative? member
    exact operand.last products_are_counted signed
  | numeral numeral => exact Level.isSteady_numeral numeral
  | group _ inner => exact Level.isSteady_group inner
  | negation _ operand => exact Level.isSteady_negation operand

/-! ## Parentheses -/

variable {text : Text} {count : Nat} {value : N}

theorem Level.Steady.parenthesized (steady : Level.sum.Steady .sum text count value) :
    Level.sum.Steady .sum ('(' :: text ++ [')']) (4 * count + 40) value := by
  have product : Level.product.Steady .product ('(' :: text ++ [')']) _ value :=
    (Level.steady_group steady).alone products_are_counted
  have total : 4 * count + 40 = 2 * (2 * (count + 4) + 8) + 8 := by omega
  rw [total]
  exact product.alone sums_are_counted

/-- Three times the records and forty more: with each pair that grows by a factor of four. -/
theorem Level.Steady.parenthesized_times (steady : Level.sum.Steady .sum text count value) (pairs : Nat) :
    ∃ total, 3 * total + 40 = 4 ^ pairs * (3 * count + 40) ∧
      Level.sum.Steady .sum (List.replicate pairs '(' ++ text ++ List.replicate pairs ')') total value := by
  induction pairs with
  | zero => exact ⟨count, by simp, by simpa using steady⟩
  | succ pairs ih =>
    obtain ⟨inner, counted, steady⟩ := ih
    have step : 3 * (4 * inner + 40) + 40 = 4 ^ (pairs + 1) * (3 * count + 40) := by
      rw [Nat.pow_succ', Nat.mul_assoc, ← counted]
      omega
    refine ⟨4 * inner + 40, step, ?_⟩
    have nested : List.replicate (pairs + 1) '(' ++ text ++ List.replicate (pairs + 1) ')' =
        '(' :: (List.replicate pairs '(' ++ text ++ List.replicate pairs ')') ++ [')'] := by
      rw [List.replicate_succ, List.replicate_succ']
      simp
    rw [nested]
    exact steady.parenthesized

private theorem four_pow_mul_le {pairs total : Nat} (counted : 3 * total + 40 = 4 ^ pairs * (3 * count + 40)) :
    4 ^ pairs * count ≤ total := by
  have positive : 0 < 4 ^ pairs := Nat.pow_pos (by decide)
  have distributed : 4 ^ pairs * (3 * count + 40) = 3 * (4 ^ pairs * count) + 40 * 4 ^ pairs := by
    rw [Nat.mul_add, Nat.mul_left_comm, Nat.mul_comm (4 ^ pairs) 40]
  omega

/-- The whole text is parsed, and at its cost. -/
theorem Level.Steady.apply (steady : Level.sum.Steady .sum text count value) :
    (grammar N).parseAll (.rule .sum) text = some (.ok value) ∧
      ∃ trace, (grammar N).apply (.rule .sum) text = some ⟨trace, .ok ⟨[], value⟩⟩ ∧ trace.length = count := by
  obtain ⟨trace, answers, length⟩ := costs_some_iff.mp (steady [] Level.Stops.nil)
  rw [List.append_nil] at answers
  have ran := ((ranking N).rulesTerminate.rule .sum).apply_eq_some_iff.mpr answers
  exact ⟨parseAll_eq_ok_iff.mpr (apply_eq_ok_iff.mp ⟨trace, ran⟩), trace, ran, length⟩

theorem exists_steady_of_parsed (parsed : (grammar N).parseAll (.rule .sum) text = some (.ok value)) :
    ∃ count, Level.sum.Steady .sum text count value := by
  obtain ⟨part, same, derives⟩ := Loop.sum_sound ((apply_reads_sum text).unique (parseAll_eq_ok_iff.mp parsed))
  rw [List.append_nil] at same
  obtain ⟨count, found, steady⟩ := (same ▸ derives.isSteady : Level.sum.IsSteady (.sum : Rule N N) text)
  cases steady.apply.1.symm.trans parsed
  exact ⟨count, steady⟩

/-- An expression in parentheses is parsed as the same value, and the run leaves four times as many
records and forty more. So the records grow with the power of four of the pairs around
an expression, while its value never changes. -/
theorem parentheses_quadruple_records (parsed : (grammar N).parseAll (.rule .sum) text = some (.ok value)) :
    ∃ trace, (grammar N).apply (.rule .sum) text = some ⟨trace, .ok ⟨[], value⟩⟩ ∧
      (grammar N).parseAll (.rule .sum) ('(' :: text ++ [')']) = some (.ok value) ∧
      (∃ wrapped, (grammar N).apply (.rule .sum) ('(' :: text ++ [')']) = some ⟨wrapped, .ok ⟨[], value⟩⟩ ∧
        wrapped.length = 4 * trace.length + 40) ∧
      ∀ pairs, (grammar N).parseAll (.rule .sum) (List.replicate pairs '(' ++ text ++ List.replicate pairs ')') =
          some (.ok value) ∧
        ∃ wrapped, (grammar N).apply (.rule .sum) (List.replicate pairs '(' ++ text ++ List.replicate pairs ')') =
            some ⟨wrapped, .ok ⟨[], value⟩⟩ ∧
          4 ^ pairs * trace.length ≤ wrapped.length := by
  obtain ⟨count, steady⟩ := exists_steady_of_parsed parsed
  obtain ⟨_, trace, ran, rfl⟩ := steady.apply
  obtain ⟨whole, once⟩ := steady.parenthesized.apply
  refine ⟨trace, ran, whole, once, fun pairs => ?_⟩
  obtain ⟨total, counted, nested⟩ := steady.parenthesized_times pairs
  obtain ⟨whole, wrapped, often, rfl⟩ := nested.apply
  exact ⟨whole, wrapped, often, four_pow_mul_le counted⟩

/-- One plus two takes sixty-eight records. -/
theorem small_sum_in_parentheses :
    (grammar Rat).parseAll (.rule .sum) ['1', '+', '2'] = some (.ok 3) ∧
      ∃ wrapped, (grammar Rat).apply (.rule .sum) ['(', '1', '+', '2', ')'] = some ⟨wrapped, .ok ⟨[], 3⟩⟩ ∧
        wrapped.length = 4 * 68 + 40 := by
  have value : ofNat 1 + ofNat 0 + (ofNat 2 + ofNat 0) = (3 : Rat) := by decide +kernel
  have parsed : (grammar Rat).parseAll (.rule .sum) ['1', '+', '2'] = some (.ok 3) := by
    rw [← value]
    rfl
  obtain ⟨trace, ran, _, ⟨wrapped, once, length⟩, _⟩ := parentheses_quadruple_records parsed
  refine ⟨parsed, wrapped, once, ?_⟩
  have counted : some 68 = some trace.length := congrArg (Option.map fun reply : Reply Rat => reply.trace.length) ran
  rw [length, ← Option.some.inj counted]

end Backtrack.Arithmetic
