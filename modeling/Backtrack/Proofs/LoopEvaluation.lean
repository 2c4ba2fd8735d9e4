import Backtrack.Arithmetic.Grammar
import Backtrack.Proofs.LoopSteps

/-! The grammar of expressions against evaluation by loops. A tail rule collects the
links that a loop goes through, and a chain applied to its left operand is what the loop
computes. So every rule of operands reads what its loop reads, at a depth that
grows with the text. -/

namespace Backtrack.Arithmetic

variable {N : Type}

namespace Loop

/-- The links that a loop goes through from here, and the text where it stops. -/
inductive Links (operator? : Char → Option Operator) (operand : Reader N) : Text → Chain N → Text → Prop where
  | stop {input} (stuck : ∀ sign rest, input = sign :: rest → operator? sign = none ∨ operand rest = none) :
      Links operator? operand input [] input
  | link {sign operator rest right tail chain last} (signed : operator? sign = some operator)
      (read : operand rest = some (right, tail)) (later : Links operator? operand tail chain last) :
      Links operator? operand (sign :: rest) ((operator, right) :: chain) last

variable {operator? : Char → Option Operator} {operand : Reader N}

theorem Links.exist (shortens : operand.Shortens) (input : Text) :
    ∃ chain last, Links operator? operand input chain last := by
  induction length : input.length using Nat.strongRecOn generalizing input with
  | ind _ ih =>
    cases input with
    | nil => exact ⟨[], [], .stop fun _ _ impossible => nomatch impossible⟩
    | cons sign rest =>
      cases signed : operator? sign with
      | none => exact ⟨[], _, .stop fun _ _ same => by cases same; exact Or.inl signed⟩
      | some operator =>
        cases read : operand rest with
        | none => exact ⟨[], _, .stop fun _ _ same => by cases same; exact Or.inr read⟩
        | some found =>
          obtain ⟨right, tail⟩ := found
          have shorter := shortens rest right tail read
          subst length
          obtain ⟨chain, last, later⟩ := ih tail.length (Nat.lt_succ_of_lt shorter) tail rfl
          exact ⟨_, last, .link signed read later⟩

theorem Links.loop_eq [Arithmetic N] (shortens : operand.Shortens) {input : Text} {chain : Chain N} {last : Text}
    (links : Links operator? operand input chain last) (value : N) :
    loop operator? operand input.length value input = (chain.applyTo value, last) := by
  induction links generalizing value with
  | @stop input stuck =>
    cases input with
    | nil => exact loop_nil _ value
    | cons sign rest => exact loop_stop (stuck sign rest rfl) _ value
  | link signed read later ih =>
    rw [loop_cons shortens signed read, ih]
    rfl

end Loop

variable [Arithmetic N]

/-- The rules of one level, whichever it is, and the signs that hold its operands together. -/
structure IsLevel (operator? : Char → Option Operator) (sign : Parser (Rule N) Operator) (operand whole : Rule N N)
    (tail : Rule N (Chain N)) : Prop where
  whole_body : body whole = chained operand tail
  tail_body : body tail = links sign operand tail
  empty : ∀ depth, (grammar N).Reads depth sign [] none
  reads : ∀ depth c rest, (grammar N).Reads depth sign (c :: rest) ((operator? c).map fun operator => (operator, rest))

/-- Two signs, each a class of its own. -/
theorem reads_signs (depth : Nat) (first second : Char) (left right : Operator) (c : Char) (rest : Text) :
    (grammar N).Reads depth (.alt (operator (.oneOf [first]) left) (operator (.oneOf [second]) right)) (c :: rest)
      ((if c = first then some left else if c = second then some right else none).map
        fun operator => (operator, rest)) := by
  have refused {sign : Char} (other : c ≠ sign) : (grammar N).Reads depth (.take (.oneOf [sign])) (c :: rest) none :=
    Grammar.reads_symbol_refused fun _ same => other (List.head_eq_of_cons_eq same)
  by_cases isFirst : c = first
  · subst isFirst
    rw [if_pos rfl]
    exact ((Grammar.reads_symbol c rest).map _).alt
  · have notFirst : (grammar N).Reads depth (operator (.oneOf [first]) left) (c :: rest) none := (refused isFirst).map _
    rw [if_neg isFirst]
    by_cases isSecond : c = second
    · subst isSecond
      rw [if_pos rfl]
      exact notFirst.alt_refused ((Grammar.reads_symbol c rest).map _)
    · rw [if_neg isSecond]
      exact notFirst.alt_refused ((refused isSecond).map _)

theorem Loop.additive?_eq (c : Char) :
    Loop.additive? c = if c = '+' then some .add else if c = '-' then some .sub else none := by
  unfold Loop.additive?
  split <;> simp_all

theorem Loop.multiplicative?_eq (c : Char) :
    Loop.multiplicative? c = if c = '*' then some .mul else if c = '/' then some .div else none := by
  unfold Loop.multiplicative?
  split <;> simp_all

theorem sums_are_level : IsLevel Loop.additive? (additive : Parser (Rule N) Operator) .product .sum .sumTail where
  whole_body := rfl
  tail_body := rfl
  empty := fun _ => ((Grammar.reads_take_nil _).map _).alt_refused ((Grammar.reads_take_nil _).map _)
  reads := by
    intro depth c rest
    rw [Loop.additive?_eq]
    exact reads_signs depth '+' '-' .add .sub c rest

theorem products_are_level :
    IsLevel Loop.multiplicative? (multiplicative : Parser (Rule N) Operator) .factor .product .productTail where
  whole_body := rfl
  tail_body := rfl
  empty := fun _ => ((Grammar.reads_take_nil _).map _).alt_refused ((Grammar.reads_take_nil _).map _)
  reads := by
    intro depth c rest
    rw [Loop.multiplicative?_eq]
    exact reads_signs depth '*' '/' .mul .div c rest

/-! ## One level -/

/-- Within a bound on the text, the rule reads what the reader reads. The depth that it
takes is three for each character and an offset of the rule. -/
def ReadsAs (name : Rule N α) (reader : Text → Option (α × Text)) (bound offset : Nat) : Prop :=
  ∀ input depth, input.length < bound → 3 * input.length + offset ≤ depth →
    (grammar N).Reads depth (.rule name) input (reader input)

variable {operator? : Char → Option Operator} {sign : Parser (Rule N) Operator} {operand whole : Rule N N}
  {tail : Rule N (Chain N)} {reader : Loop.Reader N} {bound offset : Nat}

/-- The tail rule is refused where the loop stops at once, and otherwise reads all links. -/
theorem reads_tail (level : IsLevel operator? sign operand whole tail) (operands : ReadsAs operand reader bound (offset + 3))
    (shortens : reader.Shortens) {input : Text} {chain : Chain N} {last : Text}
    (links : Loop.Links operator? reader input chain last) {depth : Nat} (short : input.length ≤ bound)
    (deep : 3 * input.length + offset < depth) :
    (grammar N).Reads depth (.rule tail) input (if chain = [] then none else some (chain, last)) := by
  induction links generalizing depth with
  | @stop input stuck =>
    obtain ⟨depth, rfl⟩ := Nat.exists_eq_succ_of_ne_zero (Nat.ne_zero_of_lt deep)
    apply Grammar.Reads.rule
    rw [if_pos rfl, show (grammar N).body tail = _ from level.tail_body]
    have refused (unsigned : (grammar N).Reads depth sign input none) :
        (grammar N).Reads depth (links sign operand tail) input none :=
      (unsigned.seq_refused.map _).alt_refused (unsigned.seq_refused.map _)
    cases input with
    | nil => exact refused (level.empty depth)
    | cons c rest =>
      have signed := level.reads depth c rest
      cases found : operator? c with
      | none =>
        rw [found] at signed
        exact refused signed
      | some operator =>
        rw [found] at signed
        simp only [List.length_cons] at short deep
        have unread : reader rest = none := (stuck c rest rfl).resolve_left (by simp [found])
        have read := operands rest depth (by omega) (by omega)
        rw [unread] at read
        exact ((signed.seq read.seq_refused).map _).alt_refused ((signed.seq read).map _)
  | @link c operator rest right middle chain last found taken later ih =>
    obtain ⟨depth, rfl⟩ := Nat.exists_eq_succ_of_ne_zero (Nat.ne_zero_of_lt deep)
    apply Grammar.Reads.rule
    rw [if_neg (List.cons_ne_nil _ _), show (grammar N).body tail = _ from level.tail_body]
    have signed := level.reads depth c rest
    rw [found] at signed
    simp only [List.length_cons] at short deep
    have read := operands rest depth (by omega) (by omega)
    rw [taken] at read
    have shorter := shortens rest right middle taken
    have others : (grammar N).Reads depth (.rule tail) middle _ := ih (by omega) (by omega)
    by_cases empty : chain = []
    · subst empty
      cases later with
      | stop => exact ((signed.seq (read.seq others)).map _).alt_refused ((signed.seq read).map _)
    · rw [if_neg empty] at others
      exact ((signed.seq (read.seq others)).map _).alt

theorem reads_whole (level : IsLevel operator? sign operand whole tail)
    (operands : ReadsAs operand reader bound (offset + 3)) (shortens : reader.Shortens) :
    ReadsAs whole (Loop.level operator? reader) bound (offset + 4) := by
  intro input depth short deep
  obtain ⟨depth, rfl⟩ := Nat.exists_eq_succ_of_ne_zero (Nat.ne_zero_of_lt deep)
  apply Grammar.Reads.rule
  rw [show (grammar N).body whole = _ from level.whole_body]
  have read := operands input depth short (by omega)
  cases taken : reader input with
  | none =>
    rw [taken] at read
    rw [Loop.level_eq_none taken]
    exact (read.seq_refused.map _).alt_refused read
  | some found =>
    obtain ⟨first, rest⟩ := found
    rw [taken] at read
    have shorter := shortens input first rest taken
    obtain ⟨chain, last, links⟩ := Loop.Links.exist shortens rest
    have others : (grammar N).Reads depth (.rule tail) rest _ :=
      reads_tail level operands shortens links (by omega) (by omega)
    rw [Loop.level_eq_some taken, links.loop_eq shortens]
    by_cases empty : chain = []
    · subst empty
      cases links with
      | stop => exact ((read.seq others).map _).alt_refused read
    · rw [if_neg empty] at others
      exact ((read.seq others).map _).alt

/-! ## All levels -/

abbrev group : Parser (Rule N) N :=
  .map3 (.take opening) (.rule .sum) (.take closing) fun _ value _ => value

abbrev negation : Parser (Rule N) N :=
  .map2 (.take minusSign) (.rule .factor) fun _ value => -value

variable {depth : Nat} {input inner : Text}

private theorem reads_group {value : N} {tail : Text}
    (summed : (grammar N).Reads depth (.rule .sum) inner (some (value, ')' :: tail))) :
    (grammar N).Reads depth group ('(' :: inner) (some (value, tail)) :=
  ((Grammar.reads_symbol '(' inner).seq (summed.seq (Grammar.reads_symbol ')' tail))).map _

private theorem reads_group_open {result : Option (N × Text)} (summed : (grammar N).Reads depth (.rule .sum) inner result)
    (unclosed : ∀ value tail, result ≠ some (value, ')' :: tail)) :
    (grammar N).Reads depth group ('(' :: inner) none := by
  have opened : (grammar N).Reads depth (.take opening) ('(' :: inner) _ := Grammar.reads_symbol '(' inner
  cases result with
  | none => exact (opened.seq summed.seq_refused).map _
  | some found =>
    obtain ⟨value, tail⟩ := found
    have refused : (grammar N).Reads depth (.take closing) tail none :=
      Grammar.reads_symbol_refused fun rest same => unclosed value rest (same ▸ rfl)
    exact (opened.seq (summed.seq refused)).map _

private theorem reads_group_refused (noGroup : ∀ inner, input ≠ '(' :: inner) :
    (grammar N).Reads depth group input none :=
  (Grammar.reads_symbol_refused noGroup).seq_refused.map _

private theorem reads_negation {result : Option (N × Text)} (read : (grammar N).Reads depth (.rule .factor) inner result) :
    (grammar N).Reads depth negation ('-' :: inner) (result.map fun (value, tail) => (-value, tail)) := by
  have negated : (grammar N).Reads depth negation ('-' :: inner) _ := ((Grammar.reads_symbol '-' inner).seq read).map _
  rwa [Option.map_map] at negated

private theorem reads_negation_refused (noNegation : ∀ inner, input ≠ '-' :: inner) :
    (grammar N).Reads depth negation input none :=
  (Grammar.reads_symbol_refused noNegation).seq_refused.map _

private theorem ReadsAs.sums {nesting : Nat}
    (factors : ReadsAs (.factor : Rule N N) (Loop.factorWithin nesting) nesting 3) :
    ReadsAs (.sum : Rule N N) (Loop.sumOf (Loop.factorWithin nesting)) nesting 5 :=
  reads_whole sums_are_level (reads_whole products_are_level factors (Loop.factorWithin_sound nesting).shortens)
    (Loop.productOf_sound nesting).shortens

/-- The induction is on the nesting that is allowed: each rule that a factor calls is
on a shorter text. -/
theorem reads_factor (nesting : Nat) : ReadsAs (.factor : Rule N N) (Loop.factorWithin nesting) nesting 3 := by
  induction nesting with
  | zero => exact fun _ _ short => absurd short (Nat.not_lt_zero _)
  | succ nesting ih =>
    intro input depth short deep
    obtain ⟨depth, rfl⟩ := Nat.exists_eq_succ_of_ne_zero (Nat.ne_zero_of_lt deep)
    apply Grammar.Reads.rule
    rw [show (grammar N).body .factor = .alt (.alt number group) negation from rfl]
    have numbers : (grammar N).Reads depth (number : Parser (Rule N) N) input _ := reads_number input (by omega)
    cases scanned : Numeral.scan? input with
    | some found =>
      rw [scanned] at numbers
      rw [Loop.factorWithin_numeral scanned]
      exact numbers.alt.alt
    | none =>
      rw [scanned] at numbers
      by_cases isGroup : ∃ inner, input = '(' :: inner
      · obtain ⟨inner, rfl⟩ := isGroup
        simp only [List.length_cons] at short deep
        have summed := ih.sums inner depth (by omega) (by omega)
        by_cases closed : ∃ (value : N) (tail : Text),
            Loop.sumOf (Loop.factorWithin nesting) inner = some (value, ')' :: tail)
        · obtain ⟨value, tail, closed⟩ := closed
          rw [closed] at summed
          rw [Loop.factorWithin_group closed]
          exact (numbers.alt_refused (reads_group summed)).alt
        · have unclosed (value : N) (tail : Text) :
              Loop.sumOf (Loop.factorWithin nesting) inner ≠ some (value, ')' :: tail) :=
            fun same => closed ⟨value, tail, same⟩
          have noNegation (other : Text) : '(' :: inner ≠ '-' :: other := by simp
          rw [Loop.factorWithin_group_open unclosed]
          exact (numbers.alt_refused (reads_group_open summed unclosed)).alt_refused (reads_negation_refused noNegation)
      · have noGroup (inner : Text) : input ≠ '(' :: inner := fun same => isGroup ⟨inner, same⟩
        have unread := numbers.alt_refused (reads_group_refused noGroup)
        by_cases isNegation : ∃ inner, input = '-' :: inner
        · obtain ⟨inner, rfl⟩ := isNegation
          simp only [List.length_cons] at short deep
          rw [Loop.factorWithin_negation]
          exact unread.alt_refused (reads_negation (ih inner depth (by omega) (by omega)))
        · have noNegation (inner : Text) : input ≠ '-' :: inner := fun same => isNegation ⟨inner, same⟩
          rw [Loop.factorWithin_other scanned noGroup noNegation]
          exact unread.alt_refused (reads_negation_refused noNegation)

theorem reads_sum (input : Text) {depth : Nat} (deep : 3 * input.length + 5 ≤ depth) :
    (grammar N).Reads depth (.rule .sum) input (Loop.sum input) :=
  (reads_factor (input.length + 1)).sums input depth (Nat.lt_succ_self _) deep

/-- The limit on the depth is never met. -/
theorem apply_reads_sum (input : Text) :
    (grammar N).Reads ((grammar N).limit input) (.rule .sum) input (Loop.sum input) := by
  have limit : (grammar N).limit input = 6 * (input.length + 2) := rfl
  exact reads_sum input (by omega)

end Backtrack.Arithmetic
