import Backtrack.Arithmetic.Language
import Backtrack.Arithmetic.Loop
import Backtrack.Proofs.Numerals

/-! Evaluation by loops, step by step. Each round of a loop takes an operator and an
operand, so the bound on the rounds is never reached, and the text that is read is
derived by the grammar. -/

namespace Backtrack.Arithmetic.Loop

variable {N : Type}

/-- Every operand takes some text. -/
def Reader.Shortens (operand : Reader N) : Prop :=
  ∀ input value rest, operand input = some (value, rest) → rest.length < input.length

variable [Arithmetic N] {operator? : Char → Option Operator} {operand : Reader N}

theorem loop_nil (rounds : Nat) (value : N) : loop operator? operand rounds value [] = (value, []) := by
  cases rounds <;> rfl

theorem loop_stop {sign : Char} {rest : Text} (stop : operator? sign = none ∨ operand rest = none) (rounds : Nat)
    (value : N) : loop operator? operand rounds value (sign :: rest) = (value, sign :: rest) := by
  cases rounds with
  | zero => rfl
  | succ rounds =>
    rcases stop with none | none
    · simp [loop, none]
    · simp only [loop, none]
      cases operator? sign <;> rfl

theorem loop_step {sign : Char} {rest tail : Text} {operator : Operator} {right : N}
    (signed : operator? sign = some operator) (read : operand rest = some (right, tail)) (rounds : Nat) (value : N) :
    loop operator? operand (rounds + 1) value (sign :: rest) =
      loop operator? operand rounds (operator.apply value right) tail := by
  simp only [loop, signed, read]

/-- More rounds than there are characters make no difference. -/
theorem loop_rounds (shortens : operand.Shortens) {rounds : Nat} {rest : Text} (enough : rest.length ≤ rounds)
    (value : N) : loop operator? operand rounds value rest = loop operator? operand rest.length value rest := by
  induction rounds using Nat.strongRecOn generalizing value rest with
  | ind rounds ih =>
    cases rest with
    | nil => rw [loop_nil, loop_nil]
    | cons sign rest =>
      obtain ⟨rounds, rfl⟩ := Nat.exists_eq_succ_of_ne_zero (Nat.ne_zero_of_lt enough)
      cases signed : operator? sign with
      | none => rw [loop_stop (Or.inl signed), loop_stop (Or.inl signed)]
      | some operator =>
        cases read : operand rest with
        | none => rw [loop_stop (Or.inr read), loop_stop (Or.inr read)]
        | some found =>
          obtain ⟨right, tail⟩ := found
          have shorter := shortens rest right tail read
          simp only [List.length_cons] at enough ⊢
          rw [loop_step signed read, loop_step signed read, ih rounds (by omega) (by omega),
            ih rest.length (by omega) (by omega)]

/-- One round, with the bound that the rest of the text gives. -/
theorem loop_cons (shortens : operand.Shortens) {sign : Char} {rest tail : Text} {operator : Operator} {right : N}
    (signed : operator? sign = some operator) (read : operand rest = some (right, tail)) (value : N) :
    loop operator? operand (sign :: rest).length value (sign :: rest) =
      loop operator? operand tail.length (operator.apply value right) tail := by
  have shorter := shortens rest right tail read
  rw [List.length_cons, loop_step signed read, loop_rounds shortens (by omega)]

theorem loop_length (shortens : operand.Shortens) (rounds : Nat) (value : N) (rest : Text) :
    (loop operator? operand rounds value rest).2.length ≤ rest.length := by
  induction rounds generalizing value rest with
  | zero => simp [loop]
  | succ rounds ih =>
    cases rest with
    | nil => simp [loop_nil]
    | cons sign rest =>
      cases signed : operator? sign with
      | none => simp [loop_stop (Or.inl signed)]
      | some operator =>
        cases read : operand rest with
        | none => simp [loop_stop (Or.inr read)]
        | some found =>
          obtain ⟨right, tail⟩ := found
          have shorter := shortens rest right tail read
          have later := ih (operator.apply value right) tail
          rw [loop_step signed read, List.length_cons]
          omega

theorem level_eq_none {input : Text} (refused : operand input = none) : level operator? operand input = none := by
  rw [level, refused]
  rfl

theorem level_eq_some {input rest : Text} {first : N} (read : operand input = some (first, rest)) :
    level operator? operand input = some (loop operator? operand rest.length first rest) := by
  rw [level, read]
  rfl

/-! ## Factors -/

theorem factorWithin_numeral {input rest : Text} {numeral : Numeral} (scanned : Numeral.scan? input = some (numeral, rest))
    (nesting : Nat) : factorWithin (nesting + 1) input = some ((numeral.value : N), rest) := by
  simp only [factorWithin, scanned]

theorem factorWithin_group {nesting : Nat} {inner tail : Text} {value : N}
    (summed : sumOf (factorWithin nesting) inner = some (value, ')' :: tail)) :
    factorWithin (nesting + 1) ('(' :: inner) = some (value, tail) := by
  have unscanned : Numeral.scan? ('(' :: inner) = none := rfl
  simp only [factorWithin, unscanned, summed]

theorem factorWithin_group_open {nesting : Nat} {inner : Text}
    (unclosed : ∀ (value : N) (tail : Text), sumOf (factorWithin nesting) inner ≠ some (value, ')' :: tail)) :
    (factorWithin (nesting + 1) : Reader N) ('(' :: inner) = none := by
  have unscanned : Numeral.scan? ('(' :: inner) = none := rfl
  simp only [factorWithin, unscanned]

theorem factorWithin_negation (nesting : Nat) (inner : Text) : (factorWithin (nesting + 1) : Reader N) ('-' :: inner) =
    (factorWithin nesting inner).map fun (value, tail) => (-value, tail) := rfl

theorem factorWithin_other {input : Text} (unscanned : Numeral.scan? input = none)
    (noGroup : ∀ inner, input ≠ '(' :: inner) (noNegation : ∀ inner, input ≠ '-' :: inner) (nesting : Nat) :
    (factorWithin nesting : Reader N) input = none := by
  cases nesting with
  | zero => rfl
  | succ nesting => simp only [factorWithin, unscanned]

end Backtrack.Arithmetic.Loop

namespace Backtrack.Arithmetic

/-! ## What is read is derived -/

theorem Derives.ne_nil {category : Category} {text : Text} (derives : Derives category text) : text ≠ [] := by
  induction derives with
  | sumChain _ _ ih _ | productChain _ _ ih _ => exact fun empty => ih (List.append_eq_nil_iff.mp empty).1
  | sumAlone _ ih | productAlone _ ih => exact ih
  | numeral numeral =>
    cases same : numeral.whole <;> simp [Numeral.text, Whole.digits, same]
  | _ => simp

theorem Numeral.mem_text {numeral : Numeral} {c : Char} (member : c ∈ numeral.text) : c ∈ numeralCharacters := by
  have digits : ∀ digit : Digit, digit.char ∈ numeralCharacters := by decide
  rcases List.mem_append.mp member with member | member
  · obtain ⟨digit, _, rfl⟩ := List.mem_map.mp member
    exact digits digit
  · unfold fractionText at member
    split at member
    · cases member
    · rcases List.mem_cons.mp member with rfl | member
      · decide
      · obtain ⟨digit, _, rfl⟩ := List.mem_map.mp member
        exact digits digit

def expressionCharacters : List Char := '(' :: ')' :: Level.sum.continuing

theorem Derives.mem_characters {category : Category} {text : Text} (derives : Derives category text) :
    ∀ c ∈ text, c ∈ expressionCharacters := by
  have additives : additiveSigns ⊆ expressionCharacters := by decide
  have multiplicatives : multiplicativeSigns ⊆ expressionCharacters := by decide
  have numerals : numeralCharacters ⊆ expressionCharacters := by decide
  have parentheses : '(' ∈ expressionCharacters ∧ ')' ∈ expressionCharacters ∧ '-' ∈ expressionCharacters := by decide
  induction derives with
  | sumAlone _ ih | productAlone _ ih => exact ih
  | numeral numeral => exact fun c member => numerals (Numeral.mem_text member)
  | _ => simp_all [or_imp, List.subset_def]

/-- How the categories of one level hang together, whichever level it is. -/
structure Chaining (operator? : Char → Option Operator) (operand tail whole : Category) : Prop where
  alone : ∀ {text}, Derives operand text → Derives whole text
  chain : ∀ {text more}, Derives operand text → Derives tail more → Derives whole (text ++ more)
  last : ∀ {sign operator text}, operator? sign = some operator → Derives operand text → Derives tail (sign :: text)
  link : ∀ {sign operator text more}, operator? sign = some operator → Derives operand text → Derives tail more →
    Derives tail (sign :: text ++ more)

namespace Loop

theorem mem_additiveSigns {sign : Char} : sign ∈ additiveSigns ↔ sign = '+' ∨ sign = '-' := by
  simp [additiveSigns]

theorem mem_multiplicativeSigns {sign : Char} : sign ∈ multiplicativeSigns ↔ sign = '*' ∨ sign = '/' := by
  simp [multiplicativeSigns]

theorem mem_of_additive? {sign : Char} {operator : Operator} (signed : additive? sign = some operator) :
    sign ∈ additiveSigns := by
  unfold additive? at signed
  split at signed
  · decide
  · decide
  · cases signed

theorem mem_of_multiplicative? {sign : Char} {operator : Operator} (signed : multiplicative? sign = some operator) :
    sign ∈ multiplicativeSigns := by
  unfold multiplicative? at signed
  split at signed
  · decide
  · decide
  · cases signed

theorem sums_chain : Chaining additive? .product .sumTail .sum where
  alone := .sumAlone
  chain := .sumChain
  last := fun signed => .sumLast (mem_of_additive? signed)
  link := fun signed => .sumLink (mem_of_additive? signed)

theorem products_chain : Chaining multiplicative? .factor .productTail .product where
  alone := .productAlone
  chain := .productChain
  last := fun signed => .productLast (mem_of_multiplicative? signed)
  link := fun signed => .productLink (mem_of_multiplicative? signed)

variable {N : Type}

/-- Whatever the reader takes is derived by the category. -/
def Reader.Sound (reader : Reader N) (category : Category) : Prop :=
  ∀ input value rest, reader input = some (value, rest) → ∃ part, input = part ++ rest ∧ Derives category part

theorem Reader.Sound.shortens {reader : Reader N} {category : Category} (sound : reader.Sound category) :
    reader.Shortens := by
  intro input value rest read
  obtain ⟨part, rfl, derives⟩ := sound input value rest read
  have nonempty := List.length_pos_iff.mpr derives.ne_nil
  rw [List.length_append]
  omega

variable [Arithmetic N] {operator? : Char → Option Operator} {operand : Reader N}
  {category tailCategory whole : Category}

private theorem loop_sound (chaining : Chaining operator? category tailCategory whole) (sound : operand.Sound category)
    (rounds : Nat) (value : N) (input : Text) :
    (loop operator? operand rounds value input).2 = input ∨
      ∃ part, input = part ++ (loop operator? operand rounds value input).2 ∧ Derives tailCategory part := by
  induction rounds generalizing value input with
  | zero => exact Or.inl rfl
  | succ rounds ih =>
    cases input with
    | nil => exact Or.inl rfl
    | cons sign rest =>
      cases signed : operator? sign with
      | none => exact Or.inl (by rw [loop_stop (Or.inl signed)])
      | some operator =>
        cases read : operand rest with
        | none => exact Or.inl (by rw [loop_stop (Or.inr read)])
        | some found =>
          obtain ⟨right, tail⟩ := found
          obtain ⟨part, rfl, derives⟩ := sound rest right tail read
          rw [loop_step signed read]
          right
          rcases ih (operator.apply value right) tail with same | ⟨more, same, later⟩
          · exact ⟨sign :: part, by rw [same]; rfl, chaining.last signed derives⟩
          · refine ⟨sign :: part ++ more, ?_, chaining.link signed derives later⟩
            rw [List.append_assoc, ← same]
            rfl

theorem level_sound (chaining : Chaining operator? category tailCategory whole) (sound : operand.Sound category) :
    (level operator? operand).Sound whole := by
  intro input value rest read
  obtain ⟨⟨first, tail⟩, taken, same⟩ := Option.map_eq_some_iff.mp read
  obtain ⟨part, rfl, derives⟩ := sound input first tail taken
  have looped := loop_sound chaining sound tail.length first tail
  simp only [same] at looped
  rcases looped with rfl | ⟨more, rfl, later⟩
  · exact ⟨part, rfl, chaining.alone derives⟩
  · exact ⟨part ++ more, (List.append_assoc ..).symm, chaining.chain derives later⟩

theorem factorWithin_sound (depth : Nat) : (factorWithin depth : Reader N).Sound .factor := by
  induction depth with
  | zero => exact fun _ _ _ read => nomatch read
  | succ depth ih =>
    intro input value rest read
    simp only [factorWithin] at read
    split at read
    next numeral tail scanned =>
      cases read
      exact ⟨numeral.text, Numeral.scan?_sound scanned, .numeral numeral⟩
    next =>
      split at read
      next inner unscanned =>
        split at read
        next sum tail taken =>
          cases read
          have sound := level_sound sums_chain (level_sound products_chain ih)
          obtain ⟨part, same, derives⟩ := sound inner value (')' :: rest) taken
          exact ⟨'(' :: part ++ [')'], by simp [same], .group derives⟩
        next => cases read
      next inner unscanned =>
        obtain ⟨⟨operand, tail⟩, taken, same⟩ := Option.map_eq_some_iff.mp read
        cases same
        obtain ⟨part, rfl, derives⟩ := ih inner operand _ taken
        exact ⟨'-' :: part, rfl, .negation derives⟩
      next => cases read

theorem productOf_sound (depth : Nat) : (productOf (factorWithin depth) : Reader N).Sound .product :=
  level_sound products_chain (factorWithin_sound depth)

theorem sumOf_sound (depth : Nat) : (sumOf (factorWithin depth) : Reader N).Sound .sum :=
  level_sound sums_chain (productOf_sound depth)

end Loop
end Backtrack.Arithmetic
