import Mathlib.Algebra.BigOperators.Fin
import Mathlib.Algebra.Order.Field.Rat
import Mathlib.Tactic.Ring
import Backtrack.Proofs.DepthIndependence
import Backtrack.Proofs.Numerals

/-! What numerals are worth in rational numbers. The two folds run in opposite directions,
and without rounding both arrive at the sum over the places of the digits. -/

namespace Backtrack.Arithmetic

namespace Numeral

@[simp] theorem wholeDenotation_nil : wholeDenotation [] = 0 := rfl

@[simp] theorem wholeDenotation_cons (digit : Digit) (digits : List Digit) :
    wholeDenotation (digit :: digits) = digit.val * 10 ^ digits.length + wholeDenotation digits := rfl

/-- A digit that is put at the end moves those before it up by one place. -/
theorem wholeDenotation_concat (digits : List Digit) (last : Digit) :
    wholeDenotation (digits ++ [last]) = wholeDenotation digits * 10 + last.val := by
  induction digits with
  | nil => simp
  | cons digit digits ih =>
    simp only [List.cons_append, wholeDenotation_cons, ih, List.length_append, List.length_singleton]
    ring

theorem wholeDenotation_eq_sum (digits : List Digit) :
    wholeDenotation digits =
      ∑ i : Fin digits.length, (digits[i].val : Rat) * 10 ^ (digits.length - (i.val + 1)) := by
  induction digits with
  | nil => rfl
  | cons digit digits ih =>
    simp only [wholeDenotation_cons, ih, List.length_cons, Fin.sum_univ_succ]
    simp

@[simp] theorem fractionDenotation_nil (place : Nat) : fractionDenotation place [] = 0 := rfl

@[simp] theorem fractionDenotation_cons (place : Nat) (digit : Digit) (digits : List Digit) :
    fractionDenotation place (digit :: digits) = digit.val / 10 ^ place + fractionDenotation (place + 1) digits := rfl

/-- One place further down a fraction is worth a tenth. -/
theorem fractionDenotation_succ (digits : List Digit) (place : Nat) :
    fractionDenotation (place + 1) digits = fractionDenotation place digits / 10 := by
  induction digits generalizing place with
  | nil => simp
  | cons digit digits ih => simp only [fractionDenotation_cons, ih, add_div, pow_succ, div_div]

theorem fractionDenotation_eq_sum (digits : List Digit) (place : Nat) :
    fractionDenotation place digits =
      ∑ j : Fin digits.length, (digits[j].val : Rat) / 10 ^ (j.val + place) := by
  induction digits generalizing place with
  | nil => rfl
  | cons digit digits ih =>
    simp only [fractionDenotation_cons, ih, List.length_cons, Fin.sum_univ_succ]
    simp [Nat.add_assoc, Nat.add_comm 1]

end Numeral

/-! ## The two folds -/

/-- The fold goes on at the end of the digits, so the induction takes them off there. -/
theorem wholeValue_eq_denotation (first : Digit) (others : List Digit) :
    (wholeValue first.val (others.map Fin.val) : Rat) = Numeral.wholeDenotation (first :: others) := by
  induction others using List.reverseRecOn with
  | nil => simp [wholeValue, Arithmetic.ofNat]
  | append_singleton others last ih =>
    calc (wholeValue first.val ((others ++ [last]).map Fin.val) : Rat)
      _ = wholeValue first.val (others.map Fin.val) * 10 + last.val := by
        simp only [wholeValue, List.map_append, List.foldl_append]
        rfl
      _ = Numeral.wholeDenotation (first :: others ++ [last]) := by rw [ih, ← Numeral.wholeDenotation_concat]

theorem Whole.value_eq_denotation (whole : Whole) : (whole.value : Rat) = Numeral.wholeDenotation whole.digits := by
  cases whole with
  | zero => exact wholeValue_eq_denotation 0 []
  | leading first nonzero others => exact wholeValue_eq_denotation first others

theorem fractionValue_eq_denotation (digits : List Digit) :
    (fractionValue (digits.map Fin.val) : Rat) = Numeral.fractionDenotation 1 digits := by
  induction digits with
  | nil => rfl
  | cons digit digits ih =>
    calc (fractionValue ((digit :: digits).map Fin.val) : Rat)
      _ = (fractionValue (digits.map Fin.val) + digit.val) / 10 := rfl
      _ = digit.val / 10 ^ 1 + Numeral.fractionDenotation 1 digits / 10 := by rw [ih]; ring
      _ = Numeral.fractionDenotation 1 (digit :: digits) := by rw [← Numeral.fractionDenotation_succ]; rfl

theorem Numeral.value_eq_denotation (numeral : Numeral) : (numeral.value : Rat) = numeral.denotation := by
  rw [Numeral.value_eq, Whole.value_eq_denotation, fractionValue_eq_denotation]
  rfl

/-! ## The numerals of the natural numbers -/

theorem digitChar_val : ∀ digit : Digit, Nat.digitChar digit.val = digit.char := by decide

/-- The last digit of a numeral comes off the end, so the number decreases. -/
theorem Whole.exists_toDigits (n : Nat) : ∃ whole : Whole, Nat.toDigits 10 n = whole.digits.map Digit.char ∧
    Numeral.wholeDenotation whole.digits = n ∧ (n = 0 → whole = .zero) := by
  induction n using Nat.strong_induction_on with
  | h n ih =>
    by_cases small : n < 10
    · by_cases isZero : n = 0
      · subst isZero
        exact ⟨.zero, by decide, by simp [Whole.digits], fun _ => rfl⟩
      · refine ⟨.leading ⟨n, small⟩ (by simpa [Fin.ext_iff] using isZero) [], ?_, ?_, fun zero => absurd zero isZero⟩
        · rw [Nat.toDigits_of_lt_base small, digitChar_val ⟨n, small⟩]
          rfl
        · simp [Whole.digits]
    · obtain ⟨whole, written, worth, -⟩ := ih (n / 10) (by omega)
      cases whole with
      | zero =>
        have none : n / 10 = 0 := by simpa [Whole.digits] using worth.symm
        omega
      | leading first nonzero others =>
        have last : n % 10 < 10 := Nat.mod_lt n (by decide)
        refine ⟨.leading first nonzero (others ++ [⟨n % 10, last⟩]), ?_, ?_, fun zero => by omega⟩
        · rw [Nat.toDigits_of_base_le (by decide) (by omega), written, digitChar_val ⟨n % 10, last⟩]
          simp [Whole.digits]
        · calc Numeral.wholeDenotation (first :: others ++ [⟨n % 10, last⟩])
            _ = Numeral.wholeDenotation (first :: others) * 10 + (n % 10 : Nat) := Numeral.wholeDenotation_concat _ _
            _ = (n / 10 : Nat) * 10 + (n % 10 : Nat) := by rw [← worth, Whole.digits]
            _ = n := mod_cast Nat.div_add_mod' n 10

/-! ## Numerals in front of other text -/

namespace Numeral

variable {rest : Text}

theorem scanDigits_of_no_digit (ended : ∀ c ∈ rest.head?, c.isDigit = false) : scanDigits rest = ([], rest) := by
  cases rest with
  | nil => rfl
  | cons c tail =>
    have other := ended c rfl
    rw [← isSome_digit?, Option.isSome_eq_false_iff, Option.isNone_iff_eq_none] at other
    simp [scanDigits, other]

theorem scanWhole?_written {whole : Whole} (ended : whole = .zero ∨ ∀ c ∈ rest.head?, c.isDigit = false) :
    scanWhole? (whole.digits.map Digit.char ++ rest) = some (whole, rest) := by
  cases ended with
  | inl zero =>
    subst zero
    rfl
  | inr ended =>
    obtain ⟨longer, tail, scanned, -, exact_whole⟩ := scanWhole?_digits whole rest
    obtain ⟨rfl, rfl⟩ := exact_whole (scanDigits_of_no_digit ended)
    exact scanned

theorem scanFraction_written {digits : List Digit} (some_digit : digits ≠ [])
    (ended : ∀ c ∈ rest.head?, c.isDigit = false) :
    scanFraction ('.' :: digits.map Digit.char ++ rest) = (digits, rest) := by
  rw [List.cons_append, scanFraction_point, scanDigits_append, scanDigits_of_no_digit ended]
  simp [some_digit]

end Numeral

section

open Grammar

variable {Rule : Type → Type} (grammar : Grammar Rule) {rest : Text}

theorem apply_integer_written {whole : Whole} (ended : whole = .zero ∨ ∀ c ∈ rest.head?, c.isDigit = false) :
    ∃ trace, grammar.apply (integer : Parser Rule Rat) (whole.digits.map Digit.char ++ rest) =
      some ⟨trace, .ok ⟨rest, Numeral.wholeDenotation whole.digits⟩⟩ := by
  have read : grammar.Reads _ (integer : Parser Rule Rat) (whole.digits.map Digit.char ++ rest) _ :=
    reads_integer _ (grammar.length_lt_limit _)
  simp only [Numeral.scanWhole?_written ended, Option.map_some, Whole.value_eq_denotation] at read
  exact apply_eq_ok_iff.mpr read

theorem apply_fraction_written {digits : List Digit} (some_digit : digits ≠ [])
    (ended : ∀ c ∈ rest.head?, c.isDigit = false) :
    ∃ trace, grammar.apply (fraction : Parser Rule Rat) ('.' :: digits.map Digit.char ++ rest) =
      some ⟨trace, .ok ⟨rest, Numeral.fractionDenotation 1 digits⟩⟩ := by
  have read : grammar.Reads _ (fraction : Parser Rule Rat) ('.' :: digits.map Digit.char ++ rest) _ :=
    reads_fraction _ (grammar.length_lt_limit _)
  simp only [Numeral.scanFraction_written some_digit ended, if_neg some_digit, fractionValue_eq_denotation] at read
  exact apply_eq_ok_iff.mpr read

theorem apply_number_written {numeral : Numeral} (ended : Level.factor.Stops rest) :
    ∃ trace, grammar.apply (number : Parser Rule Rat) (numeral.text ++ rest) =
      some ⟨trace, .ok ⟨rest, numeral.denotation⟩⟩ := by
  obtain ⟨longer, tail, scanned, -, exact_numeral⟩ := Numeral.scan?_text numeral rest
  obtain ⟨rfl, rfl⟩ := exact_numeral ended
  have read : grammar.Reads _ (number : Parser Rule Rat) (longer.text ++ tail) _ :=
    reads_number _ (grammar.length_lt_limit _)
  simp only [scanned, Option.map_some, Numeral.value_eq_denotation] at read
  exact apply_eq_ok_iff.mpr read

end

/-- In rational numbers the parsers of numerals and of their two parts accumulate exactly the sum
of the digits, each one at its place. So the decimal numeral of a natural number is read as that
number. The text behind it is left, unless it goes on with the numeral; behind a zero
any text is left. -/
theorem literals_denote_exactly {Rule : Type → Type} (grammar : Grammar Rule) :
    (∀ (numeral : Numeral) (rest : Text), (∀ c ∈ rest.head?, c ∉ numeralCharacters) →
      ∃ trace, grammar.apply (number : Parser Rule Rat) (numeral.text ++ rest) = some ⟨trace, .ok ⟨rest,
        (∑ i : Fin numeral.whole.digits.length,
          (numeral.whole.digits[i].val : Rat) * 10 ^ (numeral.whole.digits.length - (i.val + 1))) +
        ∑ j : Fin numeral.fraction.length, (numeral.fraction[j].val : Rat) / 10 ^ (j.val + 1)⟩⟩) ∧
    (∀ (whole : Whole) (rest : Text), (whole = .zero ∨ ∀ c ∈ rest.head?, c.isDigit = false) →
      ∃ trace, grammar.apply (integer : Parser Rule Rat) (whole.digits.map Digit.char ++ rest) =
        some ⟨trace, .ok ⟨rest, ∑ i : Fin whole.digits.length,
          (whole.digits[i].val : Rat) * 10 ^ (whole.digits.length - (i.val + 1))⟩⟩) ∧
    (∀ (digits : List Digit) (rest : Text), digits ≠ [] → (∀ c ∈ rest.head?, c.isDigit = false) →
      ∃ trace, grammar.apply (fraction : Parser Rule Rat) ('.' :: digits.map Digit.char ++ rest) =
        some ⟨trace, .ok ⟨rest, ∑ j : Fin digits.length, (digits[j].val : Rat) / 10 ^ (j.val + 1)⟩⟩) ∧
    (∀ (n : Nat) (rest : Text), (n = 0 ∨ ∀ c ∈ rest.head?, c.isDigit = false) →
      ∃ trace, grammar.apply (integer : Parser Rule Rat) (Nat.toDigits 10 n ++ rest) =
        some ⟨trace, .ok ⟨rest, (n : Rat)⟩⟩) := by
  refine ⟨fun numeral rest ended => ?_, fun whole rest ended => ?_, fun digits rest some_digit ended => ?_,
    fun n rest ended => ?_⟩
  · rw [← Numeral.wholeDenotation_eq_sum, ← Numeral.fractionDenotation_eq_sum]
    exact apply_number_written grammar ended
  · rw [← Numeral.wholeDenotation_eq_sum]
    exact apply_integer_written grammar ended
  · rw [← Numeral.fractionDenotation_eq_sum]
    exact apply_fraction_written grammar some_digit ended
  · obtain ⟨whole, written, worth, zero⟩ := Whole.exists_toDigits n
    rw [written, ← worth]
    exact apply_integer_written grammar (ended.imp_left zero)

theorem numerals_in_front_of_text :
    (∃ trace, Grammar.empty.apply (number : Parser NoRule Rat) "40.25+1".toList =
      some ⟨trace, .ok ⟨"+1".toList, 40 + 25 / 100⟩⟩) ∧
    (∃ trace, Grammar.empty.apply (integer : Parser NoRule Rat) "1207.".toList =
      some ⟨trace, .ok ⟨".".toList, 1207⟩⟩) ∧
    (∃ trace, Grammar.empty.apply (fraction : Parser NoRule Rat) ".05.".toList =
      some ⟨trace, .ok ⟨".".toList, 5 / 100⟩⟩) ∧
    (∃ trace, Grammar.empty.apply (integer : Parser NoRule Rat) "007".toList =
      some ⟨trace, .ok ⟨"07".toList, 0⟩⟩) := by
  obtain ⟨numbers, integers, fractions, naturals⟩ := literals_denote_exactly Grammar.empty
  have number_read := numbers ⟨.leading 4 (by decide) [0], [2, 5]⟩ "+1".toList (by simp [numeralCharacters])
  have integer_read := integers (.leading 1 (by decide) [2, 0, 7]) ".".toList (.inr (by simp))
  have fraction_read := fractions [0, 5] ".".toList (by simp) (by simp)
  have natural_read := naturals 0 "07".toList (.inl rfl)
  simp only [← Numeral.wholeDenotation_eq_sum, ← Numeral.fractionDenotation_eq_sum] at number_read integer_read fraction_read
  norm_num [Whole.digits] at number_read integer_read fraction_read ⊢
  exact ⟨number_read, integer_read, fraction_read, natural_read⟩

end Backtrack.Arithmetic
