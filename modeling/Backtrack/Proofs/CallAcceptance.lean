import Backtrack.Proofs.CallReading

/-! Which well-typed calls are parsed. The search for specs does not stop at the quote that
ends the format text, so a spec within an argument counts as a spec of the format.
A call with such an argument would need more arguments than it has. -/

namespace Backtrack.Format

variable {pieces : List Piece} {last arguments : Text}

/-- A spec within the arguments would be one more spec of the format, and the arguments
for all of them would stand behind a quote of these arguments. -/
theorem lacksSpec_of_parts {others : List Piece} {other more : Text} (clear : ∀ piece ∈ pieces, '%' ∉ piece.before)
    (percent : '%' ∉ last) (areArguments : AreArguments (pieces.map (·.spec)) arguments)
    (parts : CallParts others other more [])
    (same : callText (formatText pieces last) arguments = callText (formatText others other) more) :
    LacksSpec arguments := by
  have whole := formatText_eq_of_callText_eq (congrArg (· ++ []) same)
  refine Classical.byContradiction fun found => ?_
  obtain ⟨before, spec, rest, rfl, clearBefore⟩ := not_lacksSpec_iff.mp found
  obtain ⟨extra, final, divided, clearExtra, lacksFinal⟩ := exists_formatText (rest ++ [')'])
  have texts : formatText (pieces ++ ⟨last ++ '"' :: before, spec⟩ :: extra) final =
      formatText others (other ++ '"' :: (more ++ [')'])) := by
    rw [← whole, formatText_append, formatText_cons, ← divided]
    simp
  have clearAll : ∀ piece ∈ pieces ++ ⟨last ++ '"' :: before, spec⟩ :: extra, '%' ∉ piece.before := by
    intro piece member
    rcases List.mem_append.mp member with member | member
    · exact clear piece member
    · rcases List.mem_cons.mp member with rfl | member
      · simp [percent, clearBefore]
      · exact clearExtra piece member
  obtain ⟨rfl, rfl⟩ := formatText_unique clearAll parts.clear lacksFinal parts.lacks texts
  have ends : rest = formatText extra other ++ '"' :: more := by
    refine (List.append_left_inj [')']).mp ?_
    rw [divided, List.append_assoc, formatText_append_text]
    rfl
  have split : before ++ '%' :: spec.letter :: rest =
      (before ++ '%' :: spec.letter :: formatText extra other) ++ '"' :: more := by
    simp [ends]
  rw [split] at areArguments
  have fewer := areArguments.length_le parts.areArguments
  simp only [List.length_map, List.length_append, List.length_cons] at fewer
  omega

/-- A call whose format has no percent sign outside of its specs, and whose arguments are
those that it asks for, is parsed unless the first percent sign within the arguments
begins a spec. -/
theorem typed_call_parsed_iff (clear : ∀ piece ∈ pieces, '%' ∉ piece.before) (percent : '%' ∉ last)
    (quote : '"' ∉ last) (areArguments : AreArguments (pieces.map (·.spec)) arguments) :
    grammar.parseAll call (callText (formatText pieces last) arguments) = some (.ok ()) ↔ LacksSpec arguments := by
  rw [Grammar.parseAll_eq_ok_iff]
  have limit (input : Text) : grammar.limit input = 7 * (input.length + 2) := rfl
  constructor
  · intro reads
    obtain ⟨others, other, tail, same, parts⟩ := of_reads_call (by rw [limit]; omega) reads
    rw [List.append_nil] at same
    exact lacksSpec_of_parts clear percent areArguments parts same
  · intro lacks
    have behind : '%' ∉ last ++ ['"'] := by simpa using percent
    have parts : CallParts pieces last arguments [] :=
      ⟨clear, percent, quote, by simpa using lacks.closed.behind behind, areArguments⟩
    have reads := reads_call parts (show _ ≤ grammar.limit (callText (formatText pieces last) arguments) by
      rw [limit, List.append_nil]
      omega)
    rwa [List.append_nil] at reads

theorem string_call_parsed_iff : AreArguments [.str] [',', '"', 'a', '"'] ∧ LacksSpec [',', '"', 'a', '"'] ∧
    grammar.parseAll call (callText (formatText [⟨['='], .str⟩] []) [',', '"', 'a', '"']) = some (.ok ()) := by
  have areArguments : AreArguments [.str] [',', '"', 'a', '"'] := .string (show '"' ∉ ['a'] by decide)
  have lacks : LacksSpec [',', '"', 'a', '"'] := .of_clear (by decide)
  have clear : ∀ piece ∈ [(⟨['='], .str⟩ : Piece)], '%' ∉ piece.before := by decide
  exact ⟨areArguments, lacks, (typed_call_parsed_iff clear (by decide) (by decide) areArguments).mpr lacks⟩

/-- A text that is given for a spec, and contains one, is taken for part of the format. -/
theorem spec_within_argument_refused : ∃ pieces last arguments,
    (∀ piece ∈ pieces, '%' ∉ piece.before ∧ '"' ∉ piece.before) ∧ '%' ∉ last ∧ '"' ∉ last ∧
      AreArguments (pieces.map (·.spec)) arguments ∧ callText (formatText pieces last) arguments =
        ['p', 'r', 'i', 'n', 't', 'f', '(', '"', '%', 's', '"', ',', '"', '%', 's', '"', ')'] ∧
      grammar.parseAll call (callText (formatText pieces last) arguments) =
        some (.error (.refused (.rejected ')' "in [,]"))) := by
  have text : callText (formatText [⟨[], .str⟩] []) [',', '"', '%', 's', '"'] =
      ['p', 'r', 'i', 'n', 't', 'f', '(', '"', '%', 's', '"', ',', '"', '%', 's', '"', ')'] := by decide
  refine ⟨[⟨[], .str⟩], [], [',', '"', '%', 's', '"'], by decide, by decide, by decide,
    .string (show '"' ∉ ['%', 's'] by decide), text, ?_⟩
  rw [text]
  rfl

end Backtrack.Format
