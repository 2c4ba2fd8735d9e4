import Backtrack.Proofs.CallReading

/-! Which texts begin with a call. The format text of a call reaches to the quote behind its
last spec, and a quote in front of a spec belongs to it. Behind it stand the arguments
that the specs ask for and no others: an argument shows by itself of which kind it is
and where it ends. -/

namespace Backtrack.Format

open Arithmetic (Derives Level)

/-! ## Arguments are told apart -/

/-- An expression does not begin with a quote. -/
theorem expression_not_quoted {content rest more : Text} (derives : Derives .sum content) :
    '"' :: more ≠ content ++ rest := by
  intro same
  cases content with
  | nil => exact derives.ne_nil rfl
  | cons c content =>
    obtain rfl := List.head_eq_of_cons_eq same
    exact absurd (derives.mem_characters '"' List.mem_cons_self) (by decide)

theorem IsArgument.unique {spec other : Spec} {first second rest more : Text} (isArgument : IsArgument spec first)
    (isOther : IsArgument other second) (stops : Level.sum.Stops rest) (stopsMore : Level.sum.Stops more)
    (same : first ++ rest = second ++ more) : spec = other ∧ rest = more := by
  cases isArgument with
  | @str content clear =>
    rw [quoted_argument_append] at same
    cases isOther with
    | @str other clearOther =>
      rw [quoted_argument_append] at same
      have behind := List.tail_eq_of_cons_eq (List.tail_eq_of_cons_eq same)
      exact ⟨rfl, (split_at_first clear clearOther behind).2⟩
    | num derives => exact absurd (List.tail_eq_of_cons_eq same) (expression_not_quoted derives)
  | @num content derives =>
    cases isOther with
    | str clear =>
      rw [quoted_argument_append] at same
      exact absurd (List.tail_eq_of_cons_eq same).symm (expression_not_quoted derives)
    | num derivesOther =>
      exact ⟨rfl, derives.sum_unique derivesOther stops stopsMore (List.tail_eq_of_cons_eq same)⟩

/-- In front of a closing parenthesis a text holds arguments of one list of kinds at most. -/
theorem AreArguments.unique {specs others : List Spec} {first second rest more : Text}
    (areArguments : AreArguments specs first) (areOthers : AreArguments others second)
    (same : first ++ ')' :: rest = second ++ ')' :: more) : specs = others := by
  induction areArguments generalizing others second with
  | nil =>
    cases areOthers with
    | nil => rfl
    | cons isArgument _ =>
      obtain ⟨content, rfl⟩ := isArgument.exists_comma
      exact absurd (List.head_eq_of_cons_eq same) (by decide)
  | cons isArgument behind ih =>
    cases areOthers with
    | nil =>
      obtain ⟨content, rfl⟩ := isArgument.exists_comma
      exact absurd (List.head_eq_of_cons_eq same) (by decide)
    | cons isOther behindOther =>
      rw [List.append_assoc, List.append_assoc] at same
      obtain ⟨rfl, next⟩ := isArgument.unique isOther (behind.stops (Level.stops_closing rest))
        (behindOther.stops (Level.stops_closing more)) same
      rw [ih behindOther next]

/-! ## Calls -/

/-- The format text and its specs are determined, and so are the arguments behind it. -/
theorem CallParts.kinds_eq {pieces others : List Piece} {last other arguments more rest tail : Text}
    {kinds : List Spec} (parts : CallParts others other more tail) (clear : ∀ piece ∈ pieces, '%' ∉ piece.before)
    (quote : '"' ∉ last) (lacks : LacksSpec (last ++ '"' :: (arguments ++ ')' :: rest)))
    (areArguments : AreArguments kinds arguments)
    (same : callText (formatText pieces last) arguments ++ rest = callText (formatText others other) more ++ tail) :
    kinds = pieces.map (·.spec) := by
  obtain ⟨rfl, behind⟩ := formatText_unique clear parts.clear lacks parts.lacks (formatText_eq_of_callText_eq same)
  obtain ⟨rfl, alike⟩ := split_at_first quote parts.quote behind
  exact areArguments.unique parts.areArguments alike

theorem length_le_limit (input : Text) : 3 * input.length + 5 ≤ grammar.limit input := by
  have limit : grammar.limit input = 7 * (input.length + 2) := rfl
  omega

theorem apply_call_eq_ok_iff (input tail : Text) :
    (∃ trace, grammar.apply call input = some ⟨trace, .ok ⟨tail, ()⟩⟩) ↔
      ∃ pieces last arguments, input = callText (formatText pieces last) arguments ++ tail ∧
        CallParts pieces last arguments tail := by
  rw [Grammar.apply_eq_ok_iff]
  constructor
  · exact of_reads_call (length_le_limit input)
  · rintro ⟨pieces, last, arguments, rfl, parts⟩
    exact reads_call parts (length_le_limit _)

/-- A call is read, and this text is left behind it, exactly where the input divides into the
parts of a call in front of that text. Of the calls with a given format text, those whose
arguments are of the kinds that its specs ask for are read, in number and in order, and
no others. -/
theorem calls_are_recognized_exactly :
    (∀ input tail, (∃ trace, grammar.apply call input = some ⟨trace, .ok ⟨tail, ()⟩⟩) ↔
      ∃ pieces last arguments, input = callText (formatText pieces last) arguments ++ tail ∧
        CallParts pieces last arguments tail) ∧
    ∀ pieces last arguments kinds rest, (∀ piece ∈ pieces, '%' ∉ piece.before) → '%' ∉ last → '"' ∉ last →
      LacksSpec (last ++ '"' :: (arguments ++ ')' :: rest)) → AreArguments kinds arguments →
      ((∃ trace tail, grammar.apply call (callText (formatText pieces last) arguments ++ rest) =
        some ⟨trace, .ok ⟨tail, ()⟩⟩) ↔ kinds = pieces.map (·.spec)) := by
  refine ⟨apply_call_eq_ok_iff, ?_⟩
  intro pieces last arguments kinds rest clear percent quote lacks areArguments
  constructor
  · rintro ⟨trace, tail, ran⟩
    obtain ⟨others, other, more, same, parts⟩ := (apply_call_eq_ok_iff _ tail).mp ⟨trace, ran⟩
    exact parts.kinds_eq clear quote lacks areArguments same
  · intro asked
    have parts : CallParts pieces last arguments rest := ⟨clear, percent, quote, lacks, asked ▸ areArguments⟩
    obtain ⟨trace, ran⟩ := (apply_call_eq_ok_iff _ rest).mpr ⟨pieces, last, arguments, rfl, parts⟩
    exact ⟨trace, rest, ran⟩

/-- The format text of the first call runs through two quotes to its second spec. In the
second call a number stands where the format asks for a text. -/
theorem format_runs_through_quotes :
    (∃ trace tail, grammar.apply call (callText (formatText [⟨[], .str⟩, ⟨['"', ',', '1', ',', '"'], .str⟩] [])
      ([',', '"', 'x', '"'] ++ [',', '"', 'y', '"']) ++ ['!']) = some ⟨trace, .ok ⟨tail, ()⟩⟩) ∧
    ¬ ∃ trace tail, grammar.apply call (callText (formatText [⟨[], .str⟩] []) [',', '1'] ++ ['!']) =
      some ⟨trace, .ok ⟨tail, ()⟩⟩ := by
  have first : IsArgument .str [',', '"', 'x', '"'] := .str (show '"' ∉ ['x'] by decide)
  have second : AreArguments [.str] [',', '"', 'y', '"'] := .string (show '"' ∉ ['y'] by decide)
  have one : Derives .sum ['1'] := .sumAlone (.productAlone (.numeral ⟨.leading 1 (by decide) [], []⟩))
  have number : AreArguments [.num] [',', '1'] := .cons (.num one) .nil
  constructor
  · exact (calls_are_recognized_exactly.2 [⟨[], .str⟩, ⟨['"', ',', '1', ',', '"'], .str⟩] [] _ [.str, .str] ['!']
      (by decide) (by decide) (by decide) (.of_clear (by decide)) (.cons first second)).mpr rfl
  · intro accepted
    have same := (calls_are_recognized_exactly.2 [⟨[], .str⟩] [] _ [.num] ['!']
      (by decide) (by decide) (by decide) (.of_clear (by decide)) number).mp accepted
    cases same

end Backtrack.Format
