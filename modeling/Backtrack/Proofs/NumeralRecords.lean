import Backtrack.Proofs.Numerals
import Backtrack.Proofs.RecordCount

/-! How many records the number parser leaves. The attempts at the end of a numeral are refused
by any character that does not belong to it as they are at the end of the input, so the
number of records is the same in front of all of them. -/

namespace Backtrack.Arithmetic

open Grammar

variable {Rule : Type → Type} {grammar : Grammar Rule} {N : Type} [Arithmetic N] {rest : Text}

/-- Where no digit is scanned, neither kind of digit is found. -/
theorem not_mem_of_scanDigits (ended : Numeral.scanDigits rest = ([], rest)) :
    ∀ c ∈ rest.head?, zero.mem c = false ∧ nonzero.mem c = false := by
  intro c first
  obtain ⟨more, rfl⟩ := List.head?_eq_some_iff.mp first
  cases found : Numeral.digit? c with
  | none => exact not_mem_of_digit?_eq_none found
  | some digit => simp [Numeral.scanDigits, found] at ended

theorem costs_zeroDigit_refused (ended : Numeral.scanDigits rest = ([], rest)) : grammar.Costs zeroDigit rest 1 none :=
  (costs_take_refused fun c first => (not_mem_of_scanDigits ended c first).1).map _

theorem costs_nonzeroDigit_refused (ended : Numeral.scanDigits rest = ([], rest)) :
    grammar.Costs nonzeroDigit rest 1 none :=
  (costs_take_refused fun c first => (not_mem_of_scanDigits ended c first).2).map _

theorem costs_digit_refused (ended : Numeral.scanDigits rest = ([], rest)) : grammar.Costs digit rest 3 none :=
  (costs_zeroDigit_refused ended).alt_refused (costs_nonzeroDigit_refused ended)

theorem costs_number_refused (ended : Numeral.scanDigits rest = ([], rest)) :
    grammar.Costs (number : Parser Rule N) rest 3 none := by
  have refused : grammar.Costs (integer : Parser Rule N) rest 3 none :=
    ((costs_nonzeroDigit_refused ended).seq_refused.map _).alt_refused ((costs_zeroDigit_refused ended).map _)
  exact refused.seq_refused.map _

/-! ## Numerals that were written -/

theorem costs_nonzeroDigit {digit : Digit} (nonzero : digit ≠ 0) (rest : Text) :
    grammar.Costs nonzeroDigit (digit.char :: rest) 0 (some (digit.val, rest)) := by
  have member : Arithmetic.nonzero.mem digit.char = true := by simp [nonzero_mem_char, nonzero]
  have taken : grammar.Costs nonzeroDigit (digit.char :: rest) 0 (some (digitValue digit.char, rest)) :=
    (costs_take member rest).map digitValue
  rwa [digitValue_char] at taken

variable (grammar) (N)

theorem costs_digit (digit : Digit) : ∃ count, ∀ rest,
    grammar.Costs Arithmetic.digit (digit.char :: rest) count (some (digit.val, rest)) := by
  by_cases same : digit = 0
  · subst same
    exact ⟨0, fun rest => ((costs_take (by decide) rest).map _).alt⟩
  · refine ⟨1 + 1 + 0, fun rest => Costs.alt_refused ?_ (costs_nonzeroDigit same rest)⟩
    refine (costs_take_refused fun c first => ?_).map _
    cases first
    simp [zero_mem_char, same]

theorem costs_digits (digits : List Digit) : ∃ count, ∀ rest, Numeral.scanDigits rest = ([], rest) →
    grammar.Costs (.many digit) (digits.map Digit.char ++ rest) count (some (digits.map Fin.val, rest)) := by
  induction digits with
  | nil => exact ⟨3 + 1, fun rest ended => (costs_digit_refused ended).many_stop⟩
  | cons digit digits ih =>
    obtain ⟨count, first⟩ := costs_digit grammar digit
    obtain ⟨others, later⟩ := ih
    exact ⟨count + others, fun rest ended => (first _).many_step (later rest ended)⟩

theorem costs_integer (whole : Whole) : ∃ count, ∀ rest, Numeral.scanDigits rest = ([], rest) →
    grammar.Costs (integer : Parser Rule N) (whole.digits.map Digit.char ++ rest) count (some (whole.value, rest)) := by
  cases whole with
  | zero =>
    refine ⟨1 + 1 + 0, fun rest _ => Costs.alt_refused ?_ (((costs_take (by decide) rest).map _).map _)⟩
    refine (((costs_take_refused fun c first => ?_).map _).seq_refused).map _
    cases first
    decide
  | leading first nonzero others =>
    obtain ⟨count, later⟩ := costs_digits grammar others
    exact ⟨0 + count, fun rest ended => (((costs_nonzeroDigit nonzero _).seq (later rest ended)).map _).alt⟩

theorem costs_optionalFraction (digits : List Digit) : ∃ count, ∀ rest, Level.factor.Stops rest →
    grammar.Costs (.optional fraction (ofNat 0) : Parser Rule N) (Numeral.fractionText digits ++ rest) count
      (some (fractionValue (digits.map Fin.val), rest)) := by
  cases digits with
  | nil =>
    refine ⟨1 + 1 + 0, fun rest stops => Costs.alt_refused ?_ (costs_ret _ rest)⟩
    refine ((costs_symbol_refused fun c first same => ?_).seq_refused).map _
    subst same
    exact stops '.' first (by decide)
  | cons digit digits =>
    obtain ⟨count, first⟩ := costs_digit grammar digit
    obtain ⟨others, later⟩ := costs_digits grammar digits
    refine ⟨0 + (count + others), fun rest stops => ?_⟩
    have ended := Numeral.scanDigits_of_stops stops
    exact (((costs_symbol '.' _).seq ((first _).some_step (later rest ended))).map _).alt

theorem costs_number (numeral : Numeral) : ∃ count, ∀ rest, Level.factor.Stops rest →
    grammar.Costs (number : Parser Rule N) (numeral.text ++ rest) count (some (numeral.value, rest)) := by
  obtain ⟨whole, fraction⟩ := numeral
  obtain ⟨count, first⟩ := costs_integer grammar N whole
  obtain ⟨others, later⟩ := costs_optionalFraction grammar N fraction
  refine ⟨count + others, fun rest stops => ?_⟩
  have ended : Numeral.scanDigits (Numeral.fractionText fraction ++ rest) = ([], Numeral.fractionText fraction ++ rest) := by
    cases fraction with
    | nil => exact Numeral.scanDigits_of_stops stops
    | cons => rfl
  rw [Numeral.text, List.append_assoc, Numeral.value_eq]
  exact ((first _ ended).seq (later rest stops)).map _

end Backtrack.Arithmetic
