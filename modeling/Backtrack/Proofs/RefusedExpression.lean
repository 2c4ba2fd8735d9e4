import Backtrack.Proofs.AnswerLaws
import Backtrack.Proofs.LoopEvaluation
import Backtrack.Proofs.Termination

/-! What a refused expression reports. An expression is refused exactly where its first factor
is, and a factor reports its last alternative, the minus sign. Whatever went wrong inside
a numeral or a group has been given up by then. -/

namespace Backtrack.Arithmetic

open Grammar

variable {N : Type} [Arithmetic N] {input rest : Text} {refusal : Refusal}

/-- Where a digit stands, the number parser succeeds. -/
theorem not_digit_of_number_refused {c : Char} {other : Refusal}
    (refused : (grammar N).Refuses (number : Parser (Rule N) N) (c :: rest) other) : c.isDigit = false := by
  rw [← Numeral.isSome_digit?, ← Numeral.scan?_isSome c rest]
  have reads : (grammar N).Reads _ (number : Parser (Rule N) N) (c :: rest) _ := reads_number _ (Nat.lt_succ_self _)
  cases scanned : Numeral.scan? (c :: rest) with
  | none => rfl
  | some found =>
    rw [scanned] at reads
    obtain ⟨trace, ran⟩ := Run.reads_some_iff.mp reads
    obtain ⟨recorded, answers⟩ := refused
    cases answers.unique ⟨_, ran⟩

/-- An operand is tried with a tail and without, and a refused tail refuses nothing. -/
theorem refuses_chained_iff {operand : Rule N N} {tail : Rule N (Chain N)} :
    (grammar N).Refuses (chained operand tail) input refusal ↔ (grammar N).Refuses (.rule operand) input refusal := by
  refine refuses_alt_iff.trans (and_iff_right_of_imp fun refused => ⟨refusal, ?_⟩)
  exact refuses_map_iff.mpr (refuses_seq_iff.mpr (.inl refused))

theorem refuses_product_iff :
    (grammar N).Refuses (.rule .product) input refusal ↔ (grammar N).Refuses (.rule .factor) input refusal :=
  refuses_rule_iff.trans refuses_chained_iff

theorem refuses_sum_iff :
    (grammar N).Refuses (.rule .sum) input refusal ↔ (grammar N).Refuses (.rule .factor) input refusal :=
  (refuses_rule_iff.trans refuses_chained_iff).trans refuses_product_iff

theorem refuses_factor_iff : (grammar N).Refuses (.rule .factor) input refusal ↔
    ((∃ other, (grammar N).Refuses (number : Parser (Rule N) N) input other) ∧
      ∃ other, (grammar N).Refuses (group : Parser (Rule N) N) input other) ∧
      (grammar N).Refuses negation input refusal := by
  have body : (grammar N).body .factor = .alt (.alt number group) negation := rfl
  rw [refuses_rule_iff, body, refuses_alt_iff]
  simp only [refuses_alt_iff, exists_and_left]

/-- The sign is missing, or the factor behind it is refused. -/
theorem refuses_negation_iff : (grammar N).Refuses negation input refusal ↔
    (⟨minusSign, input⟩ : Attempt).refusal? = some refusal ∨
      ∃ rest, input = '-' :: rest ∧ (grammar N).Refuses (.rule .factor) rest refusal := by
  refine refuses_map_iff.trans (refuses_seq_iff.trans (or_congr refuses_take_iff ?_))
  constructor
  · intro ⟨trace, ⟨tail, sign⟩, read, refused⟩
    obtain ⟨same, member⟩ := Run.of_take_ok (answers_take_iff.mp read)
    have minus : sign = '-' := by simpa [minusSign] using member
    exact ⟨tail, same.trans (congrArg (· :: tail) minus), refused⟩
  · intro ⟨rest, same, refused⟩
    subst same
    exact ⟨[], ⟨rest, '-'⟩, answers_take_iff.mpr rfl, refused⟩

/-- Each sign hands on the refusal of the factor behind it. -/
theorem refused_behind_signs (count : Nat) (unsigned : ∀ more, rest ≠ '-' :: more)
    (refused : (grammar N).Refuses (.rule .factor) (List.replicate count '-' ++ rest) refusal) :
    (∀ c ∈ rest.head?, c.isDigit = false) ∧ (⟨minusSign, rest⟩ : Attempt).refusal? = some refusal := by
  induction count with
  | zero =>
    obtain ⟨⟨⟨other, numbers⟩, _⟩, negations⟩ := refuses_factor_iff.mp refused
    constructor
    · intro c first
      obtain ⟨more, rfl⟩ := List.head?_eq_some_iff.mp first
      exact not_digit_of_number_refused numbers
    · exact (refuses_negation_iff.mp negations).resolve_right fun ⟨more, same, _⟩ => unsigned more same
  | succ count ih =>
    obtain ⟨_, negations⟩ := refuses_factor_iff.mp refused
    rcases refuses_negation_iff.mp negations with missing | ⟨more, same, inner⟩
    · cases missing
    · cases same
      exact ih inner

theorem minusSign_description : minusSign.description = "in [-]" := rfl

theorem missing_sign_at_end (missing : (⟨minusSign, []⟩ : Attempt).refusal? = some refusal) :
    refusal.message = "input is empty, expected symbol in [-]" := by
  simp only [Attempt.refusal?, Option.some.injEq, minusSign_description] at missing
  rw [← missing]
  decide

theorem missing_sign_at {c : Char} (missing : (⟨minusSign, c :: rest⟩ : Attempt).refusal? = some refusal) :
    refusal.message = "symbol '" ++ c.toString ++ "' does not satisfy predicate: in [-]" := by
  have rejected : Refusal.rejected c "in [-]" = refusal := by
    simp only [Attempt.refusal?, minusSign_description] at missing
    split at missing
    next => cases missing
    next => simpa only [Option.some.injEq] using missing
  have words : "' does not satisfy predicate: " ++ "in [-]" = "' does not satisfy predicate: in [-]" := by decide
  subst rejected
  calc Refusal.message (.rejected c "in [-]")
    _ = "symbol '" ++ c.toString ++ "' does not satisfy predicate: " ++ "in [-]" := rfl
    _ = "symbol '" ++ c.toString ++ ("' does not satisfy predicate: " ++ "in [-]") := String.append_assoc
    _ = "symbol '" ++ c.toString ++ "' does not satisfy predicate: in [-]" := congrArg _ words

theorem exists_signs (input : Text) :
    ∃ count rest, input = List.replicate count '-' ++ rest ∧ ∀ more, rest ≠ '-' :: more := by
  induction input with
  | nil => exact ⟨0, [], rfl, fun _ same => nomatch same⟩
  | cons c tail ih =>
    by_cases minus : c = '-'
    · subst minus
      obtain ⟨count, rest, same, unsigned⟩ := ih
      exact ⟨count + 1, rest, congrArg ('-' :: ·) same, unsigned⟩
    · exact ⟨0, c :: tail, rfl, fun _ same => minus (List.head_eq_of_cons_eq same)⟩

/-- Take the minus signs at the start of the input away. If the input is refused as an expression,
no digit follows them, and the message names the character that does, or the end of the
input, and the minus sign that was looked for last: also where that character opens a
group with a fault far inside. Products and factors are refused on the same inputs,
with the same refusal. -/
theorem refused_expressions_report_last_alternative (input : Text) :
    ∃ count rest, input = List.replicate count '-' ++ rest ∧ (∀ more, rest ≠ '-' :: more) ∧ ∀ refusal,
      ((∃ trace, (grammar N).apply (.rule .sum) input = some ⟨trace, .error refusal⟩) →
        (rest = [] → refusal.message = "input is empty, expected symbol in [-]") ∧
        ∀ c more, rest = c :: more → c.isDigit = false ∧
          refusal.message = "symbol '" ++ c.toString ++ "' does not satisfy predicate: in [-]") ∧
      ((∃ trace, (grammar N).apply (.rule .product) input = some ⟨trace, .error refusal⟩) ↔
        ∃ trace, (grammar N).apply (.rule .sum) input = some ⟨trace, .error refusal⟩) ∧
      ((∃ trace, (grammar N).apply (.rule .factor) input = some ⟨trace, .error refusal⟩) ↔
        ∃ trace, (grammar N).apply (.rule .sum) input = some ⟨trace, .error refusal⟩) := by
  obtain ⟨count, rest, same, unsigned⟩ := exists_signs input
  refine ⟨count, rest, same, unsigned, fun refusal => ?_⟩
  have applied (name : Rule N N) : (∃ trace, (grammar N).apply (.rule name) input = some ⟨trace, .error refusal⟩) ↔
      (grammar N).Refuses (.rule name) input refusal :=
    exists_congr fun _ => ((ranking N).rulesTerminate.rule name).apply_eq_some_iff
  rw [applied, applied, applied, refuses_sum_iff, refuses_product_iff]
  refine ⟨fun refused => ?_, Iff.rfl, Iff.rfl⟩
  obtain ⟨noDigit, missing⟩ := refused_behind_signs count unsigned (same ▸ refused)
  constructor
  · intro ended
    exact missing_sign_at_end (ended ▸ missing)
  · intro c more found
    exact ⟨noDigit c (found ▸ rfl), missing_sign_at (found ▸ missing)⟩

end Backtrack.Arithmetic
