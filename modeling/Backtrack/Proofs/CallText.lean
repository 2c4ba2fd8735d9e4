import Backtrack.Format.Call
import Backtrack.Proofs.LoopSteps

/-! Calls as texts, without a parser. A text comes apart into its specs in one way only.
The commas outside of quotes count the arguments, and quotes come in pairs, so
arguments that begin behind a quote of other arguments are no more than those. -/

namespace Backtrack.Format

open Arithmetic (Derives)

/-! ## Format texts -/

@[simp] theorem formatText_nil (last : Text) : formatText [] last = last := rfl

@[simp] theorem formatText_cons (piece : Piece) (pieces : List Piece) (last : Text) :
    formatText (piece :: pieces) last = piece.before ++ '%' :: piece.spec.letter :: formatText pieces last := by
  simp [formatText, Piece.text]

theorem formatText_append (pieces others : List Piece) (last : Text) :
    formatText (pieces ++ others) last = formatText pieces (formatText others last) := by
  simp [formatText]

theorem formatText_append_text (pieces : List Piece) (last rest : Text) :
    formatText pieces last ++ rest = formatText pieces (last ++ rest) :=
  List.append_assoc ..

/-- The parts of a call, and the text behind it. In all that stands behind the last spec
no further spec is found. -/
structure CallParts (pieces : List Piece) (last arguments tail : Text) : Prop where
  clear : ∀ piece ∈ pieces, '%' ∉ piece.before
  percent : '%' ∉ last
  quote : '"' ∉ last
  lacks : LacksSpec (last ++ '"' :: (arguments ++ ')' :: tail))
  areArguments : AreArguments (pieces.map (·.spec)) arguments

theorem callText_append (pieces : List Piece) (last arguments tail : Text) :
    callText (formatText pieces last) arguments ++ tail =
      "printf".toList ++ '(' :: '"' :: formatText pieces (last ++ '"' :: (arguments ++ ')' :: tail)) := by
  have name : "printf(".toList = "printf".toList ++ ['('] := by simp
  unfold callText
  rw [name]
  generalize "printf".toList = word
  simp [← formatText_append_text]

theorem formatText_eq_of_callText_eq {pieces others : List Piece} {last other arguments more rest tail : Text}
    (same : callText (formatText pieces last) arguments ++ rest = callText (formatText others other) more ++ tail) :
    formatText pieces (last ++ '"' :: (arguments ++ ')' :: rest)) =
      formatText others (other ++ '"' :: (more ++ ')' :: tail)) := by
  rw [callText_append, callText_append] at same
  have behind := List.append_cancel_left same
  exact (List.cons_eq_cons.mp (List.cons_eq_cons.mp behind).2).2

theorem not_lacksSpec_iff {text : Text} :
    ¬ LacksSpec text ↔ ∃ before spec rest, text = before ++ '%' :: Spec.letter spec :: rest ∧ '%' ∉ before := by
  constructor
  · refine fun found => Classical.byContradiction fun none => found ?_
    intro before after same clear spec rest followed
    exact none ⟨before, spec, rest, followed ▸ same, clear⟩
  · rintro ⟨before, spec, rest, same, clear⟩ lacks
    exact lacks before _ same clear spec rest rfl

/-- Where a character stands first is the same in both readings of a text. -/
theorem split_at_first {mark : Char} {before other after rest : Text} (clear : mark ∉ before) (clearOther : mark ∉ other)
    (same : before ++ mark :: after = other ++ mark :: rest) : before = other ∧ after = rest := by
  induction before generalizing other with
  | nil =>
    cases other with
    | nil => exact ⟨rfl, List.tail_eq_of_cons_eq same⟩
    | cons c other => exact absurd (List.head_eq_of_cons_eq same) fun first => clearOther (first ▸ List.mem_cons_self)
  | cons c before ih =>
    cases other with
    | nil => exact absurd (List.head_eq_of_cons_eq same) fun first => clear (first ▸ List.mem_cons_self)
    | cons d other =>
      obtain ⟨rfl, others⟩ := List.cons_eq_cons.mp same
      obtain ⟨rfl, rfl⟩ := ih (fun member => clear (List.mem_cons_of_mem _ member))
        (fun member => clearOther (List.mem_cons_of_mem _ member)) others
      exact ⟨rfl, rfl⟩

theorem exists_formatText (text : Text) : ∃ pieces last, text = formatText pieces last ∧
    (∀ piece ∈ pieces, '%' ∉ piece.before) ∧ LacksSpec last := by
  induction length : text.length using Nat.strongRecOn generalizing text with
  | ind _ ih =>
    by_cases lacks : LacksSpec text
    · exact ⟨[], text, rfl, by simp, lacks⟩
    · obtain ⟨before, spec, rest, rfl, clear⟩ := not_lacksSpec_iff.mp lacks
      subst length
      obtain ⟨pieces, last, rfl, others, ends⟩ := ih rest.length (by simp; omega) rest rfl
      refine ⟨⟨before, spec⟩ :: pieces, last, by simp, ?_, ends⟩
      simpa using And.intro clear others

theorem formatText_unique {pieces others : List Piece} {last tail : Text}
    (clear : ∀ piece ∈ pieces, '%' ∉ piece.before) (clearOthers : ∀ piece ∈ others, '%' ∉ piece.before)
    (lacks : LacksSpec last) (lacksOther : LacksSpec tail) (same : formatText pieces last = formatText others tail) :
    pieces = others ∧ last = tail := by
  induction pieces generalizing others with
  | nil =>
    cases others with
    | nil => exact ⟨rfl, same⟩
    | cons other others =>
      rw [formatText_nil, formatText_cons] at same
      exact absurd rfl (lacks _ _ same (clearOthers other List.mem_cons_self) other.spec _)
  | cons piece pieces ih =>
    cases others with
    | nil =>
      rw [formatText_nil, formatText_cons] at same
      exact absurd rfl (lacksOther _ _ same.symm (clear piece List.mem_cons_self) piece.spec _)
    | cons other others =>
      rw [formatText_cons, formatText_cons] at same
      obtain ⟨before, after⟩ :=
        split_at_first (clear piece List.mem_cons_self) (clearOthers other List.mem_cons_self) same
      obtain ⟨letter, rest⟩ := List.cons_eq_cons.mp after
      obtain ⟨rfl, rfl⟩ := ih (fun piece member => clear piece (List.mem_cons_of_mem _ member))
        (fun other member => clearOthers other (List.mem_cons_of_mem _ member)) rest
      have spec : piece.spec = other.spec := by
        revert letter
        cases piece.spec <;> cases other.spec <;> decide
      cases piece
      cases other
      simp_all

theorem LacksSpec.of_clear {text : Text} (clear : '%' ∉ text) : LacksSpec text := by
  intro before after same
  exact absurd (same ▸ List.mem_append_right before List.mem_cons_self) clear

theorem LacksSpec.behind {front text : Text} (clear : '%' ∉ front) (lacks : LacksSpec text) :
    LacksSpec (front ++ text) := by
  refine Classical.byContradiction fun found => ?_
  obtain ⟨before, spec, rest, same, clearBefore⟩ := not_lacksSpec_iff.mp found
  rcases List.append_eq_append_iff.mp same with ⟨between, rfl, inText⟩ | ⟨between, rfl, inFront⟩
  · have clearBetween : '%' ∉ between := fun member => clearBefore (List.mem_append_right _ member)
    exact lacks between _ inText clearBetween spec rest rfl
  · cases between with
    | nil => exact lacks [] _ inFront.symm List.not_mem_nil spec rest rfl
    | cons c between =>
      obtain rfl := List.head_eq_of_cons_eq inFront
      exact clear (List.mem_append_right _ List.mem_cons_self)

/-- A closing parenthesis is no letter of a spec. -/
theorem LacksSpec.closed {text : Text} (lacks : LacksSpec text) : LacksSpec (text ++ [')']) := by
  refine Classical.byContradiction fun found => ?_
  obtain ⟨before, spec, rest, same, clear⟩ := not_lacksSpec_iff.mp found
  rcases List.eq_nil_or_concat rest with rfl | ⟨rest, c, rfl⟩
  · have last := congrArg List.getLast? same
    cases spec <;> simp [Spec.letter] at last
  · have inText : text ++ [')'] = (before ++ '%' :: spec.letter :: rest) ++ [c] := by simpa using same
    exact lacks before _ (List.append_inj_left' inText rfl) clear spec rest rfl

/-! ## Arguments -/

/-- How many commas stand outside of quotes. -/
def outsideCommas : Bool → Text → Nat
  | _, [] => 0
  | quoted, c :: rest =>
    if c = '"' then outsideCommas (!quoted) rest
    else (if c = ',' ∧ quoted = false then 1 else 0) + outsideCommas quoted rest

theorem outsideCommas_quote (quoted : Bool) (rest : Text) :
    outsideCommas quoted ('"' :: rest) = outsideCommas (!quoted) rest := if_pos rfl

theorem outsideCommas_comma (rest : Text) : outsideCommas false (',' :: rest) = 1 + outsideCommas false rest := rfl

theorem outsideCommas_skip {quoted : Bool} {text : Text}
    (plain : ∀ c ∈ text, c ≠ '"' ∧ (c = ',' → quoted = true)) (rest : Text) :
    outsideCommas quoted (text ++ rest) = outsideCommas quoted rest := by
  induction text with
  | nil => rfl
  | cons c text ih =>
    have ⟨noQuote, comma⟩ := plain c List.mem_cons_self
    have noComma : ¬ (c = ',' ∧ quoted = false) := by
      rintro ⟨same, outside⟩
      exact Bool.false_ne_true (outside.symm.trans (comma same))
    rw [List.cons_append, outsideCommas, if_neg noQuote, if_neg noComma, Nat.zero_add]
    exact ih fun d member => plain d (List.mem_cons_of_mem _ member)

/-- Each quote in front of a text turns inside and outside around. -/
theorem outsideCommas_append_le (before rest : Text) (quoted : Bool) :
    outsideCommas (quoted ^^ decide (before.count '"' % 2 = 1)) rest ≤ outsideCommas quoted (before ++ rest) := by
  induction before generalizing quoted with
  | nil => simp
  | cons c before ih =>
    by_cases quote : c = '"'
    · subst quote
      have turned := ih (!quoted)
      rw [List.cons_append, outsideCommas_quote, List.count_cons_self]
      have parity : decide ((before.count '"' + 1) % 2 = 1) = !decide (before.count '"' % 2 = 1) := by
        rw [← decide_not, decide_eq_decide]
        omega
      rwa [parity, Bool.xor_not, ← Bool.not_xor]
    · rw [List.cons_append, outsideCommas, if_neg quote, List.count_cons_of_ne quote]
      exact Nat.le_trans (ih quoted) (Nat.le_add_left _ _)

theorem quoted_argument_append (content rest : Text) :
    ',' :: '"' :: content ++ ['"'] ++ rest = ',' :: '"' :: (content ++ '"' :: rest) := by
  simp

theorem IsArgument.exists_comma {spec : Spec} {argument : Text} (isArgument : IsArgument spec argument) :
    ∃ content, argument = ',' :: content := by
  cases isArgument with
  | str _ | num _ => exact ⟨_, rfl⟩

theorem AreArguments.string {content : Text} (clear : '"' ∉ content) :
    AreArguments [.str] (',' :: '"' :: content ++ ['"']) := by
  simpa using AreArguments.cons (.str clear) .nil

theorem IsArgument.commas {spec : Spec} {argument : Text} (isArgument : IsArgument spec argument) (rest : Text) :
    outsideCommas false (argument ++ rest) = 1 + outsideCommas false rest := by
  cases isArgument with
  | @str content clear =>
    have inside : ∀ c ∈ content, c ≠ '"' ∧ (c = ',' → true = true) :=
      fun c member => ⟨fun same => clear (same ▸ member), fun _ => rfl⟩
    rw [quoted_argument_append, outsideCommas_comma, outsideCommas_quote, Bool.not_false, outsideCommas_skip inside, outsideCommas_quote,
      Bool.not_true]
  | @num content derives =>
    have plain : ∀ c ∈ content, c ≠ '"' ∧ (c = ',' → false = true) := by
      intro c member
      have character := derives.mem_characters c member
      refine ⟨?_, ?_⟩
      · rintro rfl
        exact absurd character (by decide)
      · rintro rfl
        exact absurd character (by decide)
    rw [List.cons_append, outsideCommas_comma, outsideCommas_skip plain]

theorem AreArguments.commas {specs : List Spec} {text : Text} (areArguments : AreArguments specs text) (rest : Text) :
    outsideCommas false (text ++ rest) = specs.length + outsideCommas false rest := by
  induction areArguments with
  | nil => simp
  | cons isArgument _ ih =>
    rw [List.append_assoc, isArgument.commas, ih, List.length_cons]
    omega

theorem AreArguments.even_quotes {specs : List Spec} {text : Text} (areArguments : AreArguments specs text) :
    text.count '"' % 2 = 0 := by
  induction areArguments with
  | nil => rfl
  | cons isArgument _ ih =>
    rw [List.count_append]
    cases isArgument with
    | str clear =>
      have none := List.count_eq_zero.mpr clear
      simp [none]
      omega
    | num derives =>
      have none : '"' ∉ _ := fun member => absurd (derives.mem_characters '"' member) (by decide)
      simp [List.count_eq_zero.mpr none, ih]

/-- Behind a quote of some arguments there are not more arguments than those. -/
theorem AreArguments.length_le {specs others : List Spec} {before rest : Text}
    (areArguments : AreArguments specs (before ++ '"' :: rest)) (behind : AreArguments others rest) :
    others.length ≤ specs.length := by
  have split : before ++ '"' :: rest = (before ++ ['"']) ++ rest := by simp
  have even := areArguments.even_quotes
  have counted := areArguments.commas []
  have countedBehind := behind.commas []
  rw [List.append_nil] at counted countedBehind
  rw [split, List.count_append] at even
  rw [split] at counted
  have outside : decide ((before ++ ['"']).count '"' % 2 = 1) = false := by
    have evenBehind := behind.even_quotes
    rw [decide_eq_false_iff_not]
    omega
  have most := outsideCommas_append_le (before ++ ['"']) rest false
  rw [outside, Bool.false_xor, countedBehind, counted] at most
  simpa using most

end Backtrack.Format
