import Backtrack.Proofs.GrammarRun
import Backtrack.Text.Longest

/-! A literal against a text. The tower of parsers for a literal goes through what the two have in
common and records nothing there. Its next floor is the class of the one character that
the literal goes on with, and this class refuses. -/

namespace Backtrack

variable {Rule : Type → Type}

/-! ## What two texts have in common -/

namespace Text

theorem exists_parting (first second : Text) : ∃ common left right,
    first = common ++ left ∧ second = common ++ right ∧ ∀ c ∈ left.head?, c ∉ right.head? := by
  induction first generalizing second with
  | nil => exact ⟨[], [], second, rfl, rfl, nofun⟩
  | cons c first ih =>
    by_cases same : c ∈ second.head?
    · obtain ⟨second, rfl⟩ := List.head?_eq_some_iff.mp same
      obtain ⟨common, left, right, rfl, rfl, parted⟩ := ih second
      exact ⟨c :: common, left, right, rfl, rfl, parted⟩
    · refine ⟨[], c :: first, second, rfl, rfl, ?_⟩
      intro head first
      cases first
      exact same

/-- Where the texts part, no common opening goes on. -/
theorem isLongest_parting {common left right : Text} (parted : ∀ c ∈ left.head?, c ∉ right.head?) :
    IsLongest (· <+: common ++ right) common (common ++ left) where
  opens := List.prefix_append common left
  member := List.prefix_append common right
  longest := by
    intro other opens member
    rcases List.prefix_or_prefix_of_prefix opens (List.prefix_append common left) with within | ⟨more, rfl⟩
    · exact within.length_le
    · cases more with
      | nil => simp
      | cons c more =>
        obtain ⟨_, rfl⟩ := (List.prefix_append_right_inj common).mp opens
        obtain ⟨_, rfl⟩ := (List.prefix_append_right_inj common).mp member
        exact absurd rfl (parted c rfl)

end Text

/-! ## Literals -/

theorem Run.bind_of_taken {first : Run α} {next : α → Run β} {input tail : Text} {value : α}
    (taken : first input = some ⟨[], .ok ⟨tail, value⟩⟩) : first.bind next input = next value tail := by
  rw [Run.bind, taken]
  exact Option.map_id'

theorem CharClass.description_symbol (symbol : Char) :
    (oneOf [symbol]).description = "in [" ++ symbol.toString ++ "]" := by
  have alone : ", ".intercalate [String.singleton symbol] = symbol.toString := rfl
  simp only [oneOf, listing, List.map_cons, List.map_nil, alone]
  rw [← String.append_assoc, ← String.append_assoc]
  rfl

namespace Grammar

variable (grammar : Grammar Rule) (depth : Nat)

theorem run_literal_cons (symbol : Char) (word : Text) : grammar.run depth (.literal (symbol :: word)) =
    (Run.take (.oneOf [symbol])).bind fun c => Run.map (c :: ·) (grammar.run depth (.literal word)) := by
  rw [Parser.literal, run_map, run_seq, Run.map_seq, Parser.oneOf, run_take]

/-- The part of a literal that is there is read without a record. -/
theorem run_literal_append (common word rest : Text) :
    grammar.run depth (.literal (common ++ word)) (common ++ rest) =
      Run.map (common ++ ·) (grammar.run depth (.literal word)) rest := by
  induction common with
  | nil => exact congrFun (Run.map_id _).symm rest
  | cons c common ih =>
    have taken : Run.take (.oneOf [c]) (c :: (common ++ rest)) = some ⟨[], .ok ⟨common ++ rest, c⟩⟩ := by
      simp [Run.take, CharClass.oneOf]
    calc grammar.run depth (.literal (c :: (common ++ word))) (c :: (common ++ rest))
      _ = Run.map (c :: ·) (grammar.run depth (.literal (common ++ word))) (common ++ rest) := by
        rw [run_literal_cons, Run.bind_of_taken taken]
      _ = Run.map (c :: ·) (Run.map (common ++ ·) (grammar.run depth (.literal word))) rest :=
        congrArg (Option.map (Reply.map (c :: ·))) ih
      _ = Run.map (c :: common ++ ·) (grammar.run depth (.literal word)) rest := by
        rw [Run.map_map]
        rfl

/-- Where the text does not go on as the literal does, the one class that is tried refuses. -/
theorem run_literal_parted {symbol : Char} {rest : Text} (word : Text) (parted : symbol ∉ rest.head?) :
    ∃ refusal, grammar.run depth (.literal (symbol :: word)) rest = Run.refuse refusal ∧
      (rest = [] → refusal = .endOfInput ("in [" ++ symbol.toString ++ "]")) ∧
      ∀ c behind, rest = c :: behind → refusal = .rejected c ("in [" ++ symbol.toString ++ "]") := by
  rw [run_literal_cons, ← CharClass.description_symbol]
  cases rest with
  | nil => exact ⟨_, rfl, fun _ => rfl, nofun⟩
  | cons c rest =>
    have other : (CharClass.oneOf [symbol]).mem c = false := by
      simpa [CharClass.oneOf, eq_comm] using parted
    refine ⟨.rejected c (CharClass.oneOf [symbol]).description, ?_, nofun, fun first behind same => ?_⟩
    · simp only [Run.bind, Run.take, other]
      rfl
    · cases same
      rfl

theorem run_string_append (word : String) (rest : Text) :
    grammar.run depth (.string word) (word.toList ++ rest) = some ⟨[], .ok ⟨rest, word⟩⟩ := by
  have all : grammar.run depth (.literal (word.toList ++ [])) (word.toList ++ rest) =
      some ⟨[], .ok ⟨rest, word.toList ++ []⟩⟩ := by
    rw [run_literal_append, Parser.literal, run_ret]
    rfl
  rw [List.append_nil] at all
  rw [Parser.string, run_map, Run.map, all]
  simp [Reply.map, Except.map, Success.mapValue]

theorem run_string_parted {word : String} {common more rest : Text} {symbol : Char} {refusal : Refusal}
    (split : word.toList = common ++ symbol :: more)
    (refused : grammar.run depth (.literal (symbol :: more)) rest = Run.refuse refusal) :
    grammar.run depth (.string word) (common ++ rest) = some ⟨[.refused refusal], .error refusal⟩ := by
  rw [Parser.string, split, run_map, Run.map, run_literal_append, Run.map, refused]
  rfl

end Grammar

/-- A string is matched exactly where the text begins with it; it is then the value, the rest of the
text is left, and nothing is recorded. Else there is a next character of the string
behind the longest opening that it has in common with the text. The class of this
character refuses the end of the text or the character that stands there instead, and
that refusal is the whole trace and the outcome. -/
theorem strings_match_exactly {Rule : Type → Type} (grammar : Grammar Rule) (depth : Nat) (word : String)
    (input : Text) :
    ((∃ trace success, grammar.run depth (.string word) input = some ⟨trace, .ok success⟩) ↔
      word.toList <+: input) ∧
    (∀ rest, input = word.toList ++ rest →
      grammar.run depth (.string word) input = some ⟨[], .ok ⟨rest, word⟩⟩) ∧
    (word.toList <+: input ∨ ∃ common symbol more rest refusal, word.toList = common ++ symbol :: more ∧
      input = common ++ rest ∧ Text.IsLongest (· <+: input) common word.toList ∧
      grammar.run depth (.string word) input = some ⟨[.refused refusal], .error refusal⟩ ∧
      (rest = [] → refusal = .endOfInput ("in [" ++ symbol.toString ++ "]") ∧
        refusal.message = "input is empty, expected symbol " ++ ("in [" ++ symbol.toString ++ "]")) ∧
      ∀ c behind, rest = c :: behind → refusal = .rejected c ("in [" ++ symbol.toString ++ "]") ∧
        refusal.message =
          "symbol '" ++ c.toString ++ "' does not satisfy predicate: " ++ ("in [" ++ symbol.toString ++ "]")) := by
  obtain ⟨common, left, right, split, rfl, parted⟩ := Text.exists_parting word.toList input
  cases left with
  | nil =>
    obtain rfl := split.trans (List.append_nil common)
    have read := grammar.run_string_append depth word right
    refine ⟨⟨fun _ => List.prefix_append _ _, fun _ => ⟨_, _, read⟩⟩, fun rest same => ?_,
      .inl (List.prefix_append _ _)⟩
    obtain rfl := List.append_cancel_left same
    exact read
  | cons symbol more =>
    obtain ⟨refusal, refused, atEnd, atOther⟩ := grammar.run_literal_parted depth more (parted symbol rfl)
    have ran := grammar.run_string_parted depth split refused
    -- If the text did begin with the string, the same run would be the match.
    have outside (rest : Text) : common ++ right ≠ word.toList ++ rest := by
      intro same
      have read := grammar.run_string_append depth word rest
      rw [← same, ran] at read
      cases read
    have longest : Text.IsLongest (· <+: common ++ right) common word.toList :=
      split ▸ Text.isLongest_parting parted
    refine ⟨⟨?_, fun ⟨rest, same⟩ => absurd same.symm (outside rest)⟩,
      fun rest same => absurd same (outside rest),
      .inr ⟨common, symbol, more, right, refusal, split, rfl, longest, ran,
        fun ended => ?_, fun c behind found => ?_⟩⟩
    · intro ⟨trace, success, read⟩
      cases ran.symm.trans read
    · exact ⟨atEnd ended, congrArg Refusal.message (atEnd ended)⟩
    · exact ⟨atOther c behind found, congrArg Refusal.message (atOther c behind found)⟩

end Backtrack
