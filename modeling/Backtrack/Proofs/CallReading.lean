import Backtrack.Format.Grammar
import Backtrack.Proofs.CallText
import Backtrack.Proofs.LongestExpression

/-! What the grammar of calls reads. The specs end where no further spec is found in all
that follows, and the format text ends at the quote behind them. From there on the
arguments are those that the specs ask for. -/

namespace Backtrack.Format

open Arithmetic (Derives Level Loop.sum)

variable {depth : Nat}

/-- The rules of expressions read what they read by themselves. -/
theorem reads_sum (input : Text) (deep : 3 * input.length + 5 ≤ depth) :
    grammar.Reads depth sum input (Loop.sum input) := by
  have same := (Arithmetic.grammar Float).run_extend depth 1 body (.rule .sum)
  exact (congrArg (fun run => Run.Reads run input (Loop.sum input)) same).mpr (Arithmetic.reads_sum input deep)

/-! ## Specs -/

theorem reads_spec (spec : Spec) (rest : Text) :
    grammar.Reads depth Format.spec ('%' :: spec.letter :: rest) (some (spec, rest)) := by
  have sign : grammar.Reads depth (.take percent) ('%' :: spec.letter :: rest) _ := Grammar.reads_symbol '%' _
  cases spec with
  | str => exact ((sign.seq (Grammar.reads_symbol 's' rest)).map _).alt
  | num =>
    have letter : grammar.Reads depth (.take strLetter) (Spec.num.letter :: rest) none :=
      Grammar.reads_symbol_refused fun others same => absurd (List.head_eq_of_cons_eq same) (by decide)
    exact ((sign.seq letter).map _).alt_refused ((sign.seq (Grammar.reads_symbol 'f' rest)).map _)

theorem reads_spec_refused {input : Text} (absent : ∀ spec rest, input ≠ '%' :: Spec.letter spec :: rest) :
    grammar.Reads depth Format.spec input none := by
  by_cases signed : ∃ rest, input = '%' :: rest
  · obtain ⟨rest, rfl⟩ := signed
    have sign : grammar.Reads depth (.take percent) ('%' :: rest) _ := Grammar.reads_symbol '%' rest
    have string : grammar.Reads depth (.take strLetter) rest none :=
      Grammar.reads_symbol_refused fun others same => absent .str others (same ▸ rfl)
    have number : grammar.Reads depth (.take numLetter) rest none :=
      Grammar.reads_symbol_refused fun others same => absent .num others (same ▸ rfl)
    exact ((sign.seq string).map _).alt_refused ((sign.seq number).map _)
  · have sign : grammar.Reads depth (.take percent) input none :=
      Grammar.reads_symbol_refused fun rest same => signed ⟨rest, same⟩
    exact (sign.seq_refused.map _).alt_refused (sign.seq_refused.map _)

/-- The second alternative is taken once, at the end, and stops at a quote. -/
theorem reads_specs {pieces : List Piece} {last : Text} (clear : ∀ piece ∈ pieces, '%' ∉ piece.before)
    (lacks : LacksSpec last) (deep : (formatText pieces last).length + 1 < depth) :
    grammar.Reads depth specs (formatText pieces last) (some (pieces.map (·.spec), last.dropWhile plain.mem)) := by
  induction pieces generalizing depth with
  | nil =>
    obtain ⟨depth, rfl⟩ := Nat.exists_eq_succ_of_ne_zero (Nat.ne_zero_of_lt deep)
    have skipped : grammar.Reads depth _ last _ :=
      Grammar.reads_many_take notPercent last (Nat.lt_of_succ_lt_succ deep)
    have none : grammar.Reads depth Format.spec (last.dropWhile notPercent.mem) none := by
      refine reads_spec_refused fun spec rest same => ?_
      refine lacks (last.takeWhile notPercent.mem) _ ?_ ?_ spec rest rfl
      · rw [← same, List.takeWhile_append_dropWhile]
      · intro member
        have kept := List.all_eq_true.mp List.all_takeWhile '%' member
        exact absurd kept (by decide)
    have plainly : grammar.Reads depth _ last _ :=
      Grammar.reads_many_take plain last (Nat.lt_of_succ_lt_succ deep)
    exact Grammar.Reads.rule (((skipped.seq none.seq_refused).map _).alt_refused (plainly.map _))
  | cons piece pieces ih =>
    obtain ⟨depth, rfl⟩ := Nat.exists_eq_succ_of_ne_zero (Nat.ne_zero_of_lt deep)
    rw [formatText_cons] at deep ⊢
    have shorter : (formatText pieces last).length + 1 < depth := by
      simp only [List.length_append, List.length_cons] at deep
      omega
    have inside : ∀ c ∈ piece.before, notPercent.mem c = true := by
      intro c member
      have other : c ≠ '%' := fun same => clear piece List.mem_cons_self (same ▸ member)
      exact CharClass.mem_noneOf.mpr (by simpa using other)
    have stop : ∀ c ∈ ('%' :: piece.spec.letter :: formatText pieces last).head?, notPercent.mem c = false := by
      intro c first
      cases first
      decide
    have skipped : grammar.Reads depth (.many (.take notPercent)) _ (some (piece.before, _)) :=
      Grammar.reads_many_take_append inside stop (Nat.lt_of_succ_lt_succ deep)
    have others : grammar.Reads depth specs _ _ :=
      ih (fun other member => clear other (List.mem_cons_of_mem _ member)) shorter
    exact Grammar.Reads.rule ((skipped.seq ((reads_spec piece.spec _).seq others)).map _).alt

theorem plain_mem {c : Char} : plain.mem c = true ↔ c ≠ '%' ∧ c ≠ '"' := by
  simp [plain]

theorem reads_quotedSpecs {pieces : List Piece} {last rest : Text} (clear : ∀ piece ∈ pieces, '%' ∉ piece.before)
    (percent : '%' ∉ last) (quote : '"' ∉ last) (lacks : LacksSpec (last ++ '"' :: rest))
    (deep : ('"' :: formatText pieces (last ++ '"' :: rest)).length < depth) :
    grammar.Reads depth quotedSpecs ('"' :: formatText pieces (last ++ '"' :: rest))
      (some (pieces.map (·.spec), rest)) := by
  have opened : grammar.Reads depth (.take Format.quote) ('"' :: formatText pieces (last ++ '"' :: rest)) _ :=
    Grammar.reads_symbol '"' _
  have found := reads_specs clear lacks deep
  have inside : ∀ c ∈ last, plain.mem c = true := by
    intro c member
    refine plain_mem.mpr ⟨?_, ?_⟩
    · rintro rfl
      exact percent member
    · rintro rfl
      exact quote member
  rw [List.dropWhile_append_of_pos inside, List.dropWhile_cons_of_neg (by decide)] at found
  exact (opened.seq (found.seq (Grammar.reads_symbol '"' rest))).map _

theorem of_reads_quotedSpecs {specs : List Spec} {input rest : Text} (deep : input.length < depth)
    (reads : grammar.Reads depth quotedSpecs input (some (specs, rest))) :
    ∃ pieces last, input = '"' :: formatText pieces (last ++ '"' :: rest) ∧
      (∀ piece ∈ pieces, '%' ∉ piece.before) ∧
      '%' ∉ last ∧ '"' ∉ last ∧ LacksSpec (last ++ '"' :: rest) ∧ pieces.map (·.spec) = specs := by
  obtain ⟨⟨_, found, _⟩, all, rfl⟩ := reads.of_map
  obtain ⟨body, opened, others⟩ := all.of_seq
  obtain ⟨behind, specified, closed⟩ := others.of_seq
  obtain rfl := opened.of_symbol
  obtain ⟨pieces, tail, rfl, clear, lacks⟩ := exists_formatText body
  have same := (reads_specs clear lacks deep).unique specified
  cases same
  have behind : tail = tail.takeWhile plain.mem ++ '"' :: rest := by
    rw [← closed.of_symbol, List.takeWhile_append_dropWhile]
  have inside : ∀ c ∈ tail.takeWhile plain.mem, c ≠ '%' ∧ c ≠ '"' :=
    fun c member => plain_mem.mp (List.all_eq_true.mp List.all_takeWhile c member)
  refine ⟨pieces, tail.takeWhile plain.mem, ?_, clear, ?_, ?_, ?_, rfl⟩
  · rw [← behind]
  · exact fun member => (inside '%' member).1 rfl
  · exact fun member => (inside '"' member).2 rfl
  · rwa [← behind]

/-! ## Arguments -/

theorem notQuote_mem {c : Char} : notQuote.mem c = true ↔ c ≠ '"' := by
  simp [notQuote]

theorem reads_quotedText {content : Text} (clear : '"' ∉ content) (rest : Text)
    (deep : (content ++ '"' :: rest).length < depth) :
    grammar.Reads depth quotedText ('"' :: (content ++ '"' :: rest)) (some ((), rest)) := by
  have opened : grammar.Reads depth (.take quote) ('"' :: (content ++ '"' :: rest)) _ := Grammar.reads_symbol '"' _
  have inside : ∀ c ∈ content, notQuote.mem c = true :=
    fun c member => notQuote_mem.mpr fun same => clear (same ▸ member)
  have stop : ∀ c ∈ ('"' :: rest).head?, notQuote.mem c = false := by
    intro c first
    cases first
    decide
  have text : grammar.Reads depth (.many (.take notQuote)) _ (some (content, _)) :=
    Grammar.reads_many_take_append inside stop deep
  exact (opened.seq (text.seq (Grammar.reads_symbol '"' rest))).map _

theorem of_reads_quotedText {input rest : Text} (deep : input.length < depth)
    (reads : grammar.Reads depth quotedText input (some ((), rest))) :
    ∃ content, input = '"' :: content ++ '"' :: rest ∧ '"' ∉ content := by
  obtain ⟨⟨_, content, _⟩, all, _⟩ := reads.of_map
  obtain ⟨body, opened, others⟩ := all.of_seq
  obtain ⟨behind, text, closed⟩ := others.of_seq
  obtain rfl := opened.of_symbol
  obtain rfl := closed.of_symbol
  obtain ⟨rfl, inside⟩ := text.of_many_take (Nat.lt_of_succ_lt deep)
  exact ⟨content, rfl, fun member => notQuote_mem.mp (inside '"' member) rfl⟩

theorem reads_argument {spec : Spec} {argument rest : Text} (isArgument : IsArgument spec argument)
    (stops : Level.sum.Stops rest) (deep : 3 * (argument ++ rest).length + 5 ≤ depth) :
    grammar.Reads depth (Format.argument spec) (argument ++ rest) (some ((), rest)) := by
  cases isArgument with
  | @str content clear =>
    rw [quoted_argument_append] at deep ⊢
    simp only [List.length_cons] at deep
    have quoted := reads_quotedText clear rest (show (content ++ '"' :: rest).length < depth by omega)
    exact ((Grammar.reads_symbol ',' _).seq quoted).map _
  | @num content derives =>
    rw [List.cons_append, List.length_cons] at deep
    obtain ⟨value, read⟩ := (derives.sum_exact stops : ∃ value : Float, _)
    have number := reads_sum (content ++ rest) (show 3 * (content ++ rest).length + 5 ≤ depth by omega)
    rw [read] at number
    exact ((Grammar.reads_symbol ',' _).seq (number.map _)).map _

theorem of_reads_argument {spec : Spec} {input rest : Text} (deep : 3 * input.length + 5 ≤ depth)
    (reads : grammar.Reads depth (Format.argument spec) input (some ((), rest))) :
    ∃ argument, input = argument ++ rest ∧ IsArgument spec argument := by
  cases spec with
  | str =>
    obtain ⟨⟨_, _⟩, both, _⟩ := reads.of_map
    obtain ⟨behind, comma, quoted⟩ := both.of_seq
    obtain rfl := comma.of_symbol
    rw [List.length_cons] at deep
    obtain ⟨content, rfl, clear⟩ := of_reads_quotedText (by omega) quoted
    exact ⟨_, (quoted_argument_append content rest).symm, .str clear⟩
  | num =>
    obtain ⟨⟨_, _⟩, both, _⟩ := reads.of_map
    obtain ⟨behind, comma, number⟩ := both.of_seq
    obtain rfl := comma.of_symbol
    rw [List.length_cons] at deep
    obtain ⟨value, summed, _⟩ := number.of_map
    have read := (reads_sum behind (by omega)).unique summed
    obtain ⟨content, rfl, derives⟩ := Arithmetic.Loop.sum_sound read
    exact ⟨_, rfl, .num derives⟩

/-- An argument begins with a comma, which no expression goes on with. -/
theorem AreArguments.stops {specs : List Spec} {text rest : Text} (areArguments : AreArguments specs text)
    (stops : Level.sum.Stops rest) : Level.sum.Stops (text ++ rest) := by
  cases areArguments with
  | nil => exact stops
  | cons isArgument _ =>
    obtain ⟨content, rfl⟩ := isArgument.exists_comma
    exact .cons (by decide) _

/-- The parser of the earlier arguments is run first, so the induction is on the arguments
that are still to come. -/
theorem reads_arguments_after {specs : List Spec} {text rest input : Text} {earlier : Parser CallRule Unit}
    (areArguments : AreArguments specs text) (stops : Level.sum.Stops rest)
    (deep : 3 * (text ++ rest).length + 5 ≤ depth)
    (before : grammar.Reads depth earlier input (some ((), text ++ rest))) :
    grammar.Reads depth (specs.foldl (fun earlier spec => .map2 earlier (argument spec) fun _ _ => ()) earlier) input
      (some ((), rest)) := by
  induction areArguments generalizing earlier with
  | nil => exact before
  | cons isArgument others ih =>
    rw [List.append_assoc] at deep before
    have next := reads_argument isArgument (others.stops stops) deep
    rw [List.length_append] at deep
    exact ih (by omega) ((before.seq next).map _)

theorem of_reads_arguments_after {specs : List Spec} {input rest : Text} {earlier : Parser CallRule Unit}
    (reads : grammar.Reads depth
      (specs.foldl (fun earlier spec => .map2 earlier (argument spec) fun _ _ => ()) earlier) input (some ((), rest))) :
    ∃ middle, grammar.Reads depth earlier input (some ((), middle)) ∧
      (3 * middle.length + 5 ≤ depth → ∃ text, middle = text ++ rest ∧ AreArguments specs text) := by
  induction specs generalizing earlier with
  | nil => exact ⟨rest, reads, fun _ => ⟨[], rfl, .nil⟩⟩
  | cons spec specs ih =>
    obtain ⟨middle, both, others⟩ := ih reads
    obtain ⟨⟨_, _⟩, pair, _⟩ := both.of_map
    obtain ⟨first, before, next⟩ := pair.of_seq
    refine ⟨first, before, fun deep => ?_⟩
    obtain ⟨argument, rfl, isArgument⟩ := of_reads_argument deep next
    rw [List.length_append] at deep
    obtain ⟨text, rfl, areArguments⟩ := others (by omega)
    exact ⟨argument ++ text, (List.append_assoc ..).symm, .cons isArgument areArguments⟩

/-! ## Calls -/

theorem reads_call {pieces : List Piece} {last arguments tail : Text} (parts : CallParts pieces last arguments tail)
    (deep : 3 * (callText (formatText pieces last) arguments ++ tail).length + 5 ≤ depth) :
    grammar.Reads depth call (callText (formatText pieces last) arguments ++ tail) (some ((), tail)) := by
  rw [callText_append] at deep ⊢
  have longer : (arguments ++ ')' :: tail).length <
      (formatText pieces (last ++ '"' :: (arguments ++ ')' :: tail))).length := by
    rw [← formatText_append_text]
    simp only [List.length_append, List.length_cons]
    omega
  rw [List.length_append] at deep
  simp only [List.length_cons] at deep
  have name (rest : Text) : grammar.Reads depth (.string "printf") _ _ := Grammar.reads_string "printf" rest
  have format := reads_quotedSpecs parts.clear parts.percent parts.quote parts.lacks (show _ < depth by
    rw [List.length_cons]
    omega)
  have asked : grammar.Reads depth (Format.arguments (pieces.map (·.spec))) (arguments ++ ')' :: tail) _ :=
    reads_arguments_after parts.areArguments (Level.stops_closing tail) (by omega) (Grammar.reads_ret () _)
  exact ((name _).seq ((Grammar.reads_symbol '(' _).seq ((format.bind asked).seq (Grammar.reads_symbol ')' tail)))).map _

theorem of_reads_call {input tail : Text} (deep : 3 * input.length + 5 ≤ depth)
    (reads : grammar.Reads depth call input (some ((), tail))) :
    ∃ pieces last arguments, input = callText (formatText pieces last) arguments ++ tail ∧
      CallParts pieces last arguments tail := by
  obtain ⟨⟨_, _, _, _⟩, all, _⟩ := reads.of_map
  obtain ⟨afterName, name, rest⟩ := all.of_seq
  obtain ⟨afterOpening, opened, rest⟩ := rest.of_seq
  obtain ⟨afterArguments, bound, closed⟩ := rest.of_seq
  obtain ⟨specs, afterFormat, format, asked⟩ := bound.of_bind
  obtain rfl := name.of_string
  obtain rfl := opened.of_symbol
  obtain rfl := closed.of_symbol
  rw [List.length_append, List.length_cons] at deep
  obtain ⟨pieces, last, rfl, clear, percent, quote, lacks, rfl⟩ := of_reads_quotedSpecs (by omega) format
  obtain ⟨middle, nothing, found⟩ := of_reads_arguments_after asked
  obtain rfl : afterFormat = middle :=
    congrArg Prod.snd (Option.some.inj ((Grammar.reads_ret () afterFormat).unique nothing))
  have shorter : 3 * afterFormat.length + 5 ≤ depth := by
    rw [List.length_cons, ← formatText_append_text, List.length_append, List.length_cons] at deep
    omega
  obtain ⟨arguments, rfl, areArguments⟩ := found shorter
  exact ⟨pieces, last, arguments, (callText_append pieces last arguments tail).symm,
    ⟨clear, percent, quote, lacks, areArguments⟩⟩

end Backtrack.Format
