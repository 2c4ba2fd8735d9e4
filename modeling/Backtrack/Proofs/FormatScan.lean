import Backtrack.Proofs.CallReading
import Backtrack.Proofs.Termination
import Backtrack.Text.Longest

/-! The search for specs as a scan from the left. A text comes apart in one way into specs and
the text behind the last of them. The search finds those specs, whatever quotes stand
between them, and stops at the first percent sign or quote behind them. -/

namespace Backtrack

/-- No longer opening holds only characters of the kind. -/
theorem Text.isLongest_takeWhile (kind : Char → Bool) (text : Text) :
    Text.IsLongest (fun part => ∀ c ∈ part, kind c = true) (text.takeWhile kind) text where
  opens := List.takeWhile_prefix kind
  member := List.all_eq_true.mp List.all_takeWhile
  longest := by
    rintro other ⟨rest, rfl⟩ members
    rw [List.takeWhile_append_of_pos members, List.length_append]
    exact Nat.le_add_right _ _

theorem Text.IsLongest.congr {first second : Text → Prop} (same : ∀ part, first part ↔ second part)
    (longest : Text.IsLongest first part whole) : Text.IsLongest second part whole where
  opens := longest.opens
  member := (same part).mp longest.member
  longest := fun other opens member => longest.longest other opens ((same other).mpr member)

theorem Grammar.Reads.deeper {grammar : Grammar Rule} {parser : Parser Rule α} {depth further : Nat}
    (reads : grammar.Reads depth parser input result) (more : depth ≤ further) :
    grammar.Reads further parser input result := by
  obtain ⟨reply, ran, same⟩ := Option.map_eq_some_iff.mp reads
  exact Option.map_eq_some_iff.mpr ⟨reply, grammar.run_within more parser input reply ran, same⟩

namespace Format

theorem plain_text_iff (part : Text) : (∀ c ∈ part, plain.mem c = true) ↔ '%' ∉ part ∧ '"' ∉ part := by
  simp only [plain_mem, forall_and]
  exact and_congr List.forall_mem_ne' List.forall_mem_ne'

/-- What is left begins with a percent sign or a quote. -/
theorem head_dropWhile_plain (text : Text) : ∀ c ∈ (text.dropWhile plain.mem).head?, c = '%' ∨ c = '"' := by
  intro c first
  have stop := List.head?_dropWhile_not plain.mem text
  rw [Option.mem_def.mp first] at stop
  refine Decidable.byContradiction fun neither => Bool.eq_false_iff.mp stop (plain_mem.mpr ⟨?_, ?_⟩)
  · exact fun same => neither (.inl same)
  · exact fun same => neither (.inr same)

theorem apply_reads_specs {pieces : List Piece} {last : Text} (clear : ∀ piece ∈ pieces, '%' ∉ piece.before)
    (lacks : LacksSpec last) : grammar.Reads (grammar.limit (formatText pieces last)) specs (formatText pieces last)
      (some (pieces.map (·.spec), last.dropWhile plain.mem)) := by
  have limit : grammar.limit (formatText pieces last) = 7 * ((formatText pieces last).length + 2) := rfl
  exact reads_specs clear lacks (by omega)

theorem apply_quotedSpecs_eq_ok_iff (input rest : Text) (found : List Spec) :
    (∃ trace, grammar.apply quotedSpecs input = some ⟨trace, .ok ⟨rest, found⟩⟩) ↔
      ∃ body trace, input = '"' :: body ∧ grammar.apply specs body = some ⟨trace, .ok ⟨'"' :: rest, found⟩⟩ := by
  -- Behind the quote the search runs at the depth that the whole text allows.
  have deeper {body : Text} {result : Option (List Spec × Text)} (more : grammar.limit body ≤ grammar.limit input)
      (reads : grammar.Reads (grammar.limit body) specs body result) :
      grammar.Reads (grammar.limit input) specs body result := reads.deeper more
  rw [Grammar.apply_eq_ok_iff]
  constructor
  · intro reads
    obtain ⟨⟨_, _, _⟩, all, rfl⟩ := reads.of_map
    obtain ⟨body, opened, others⟩ := all.of_seq
    obtain ⟨behind, specified, closed⟩ := others.of_seq
    obtain rfl := opened.of_symbol
    obtain rfl := closed.of_symbol
    obtain ⟨pieces, last, rfl, clear, lacks⟩ := exists_formatText body
    have scanned := apply_reads_specs clear lacks
    have same := (deeper (grammar.limit_le (Nat.le_succ _)) scanned).unique specified
    obtain ⟨trace, ran⟩ := Grammar.apply_eq_ok_iff.mpr (same ▸ scanned)
    exact ⟨_, trace, rfl, ran⟩
  · rintro ⟨body, trace, rfl, ran⟩
    have scanned := deeper (grammar.limit_le (Nat.le_succ _)) (Grammar.apply_eq_ok_iff.mp ⟨trace, ran⟩)
    have opened (depth : Nat) : grammar.Reads depth (.take quote) ('"' :: body) _ := Grammar.reads_symbol '"' body
    exact ((opened _).seq (scanned.seq (Grammar.reads_symbol '"' rest))).map _

/-- The search never fails. On every text it finds the specs of the one format text that the text
begins with, in their order, up to a rest in which no spec stands at the first percent
sign. Of that rest it takes as much as has neither percent sign nor quote. A quoted
format text is read exactly where the text begins with a quote and the search behind it
stops at a quote, and what follows that second quote is left. -/
theorem specs_are_scanned_from_left (input : Text) :
    (∃ pieces last front tail trace, input = formatText pieces last ∧
      (∀ piece ∈ pieces, '%' ∉ piece.before) ∧ LacksSpec last ∧
      (∀ others rest, input = formatText others rest → (∀ piece ∈ others, '%' ∉ piece.before) → LacksSpec rest →
        others = pieces ∧ rest = last) ∧
      last = front ++ tail ∧ Text.IsLongest (fun part => '%' ∉ part ∧ '"' ∉ part) front last ∧
      (∀ c ∈ tail.head?, c = '%' ∨ c = '"') ∧
      grammar.apply specs input = some ⟨trace, .ok ⟨tail, pieces.map (·.spec)⟩⟩) ∧
    ∃ reply, grammar.apply quotedSpecs input = some reply ∧ ∀ success, reply.outcome = .ok success ↔
      ∃ body trace, input = '"' :: body ∧
        grammar.apply specs body = some ⟨trace, .ok ⟨'"' :: success.tail, success.value⟩⟩ := by
  constructor
  · obtain ⟨pieces, last, rfl, clear, lacks⟩ := exists_formatText input
    obtain ⟨trace, ran⟩ := Grammar.apply_eq_ok_iff.mpr (apply_reads_specs clear lacks)
    refine ⟨pieces, last, last.takeWhile plain.mem, last.dropWhile plain.mem, trace, rfl, clear, lacks, ?_,
      List.takeWhile_append_dropWhile.symm, ?_, head_dropWhile_plain last, ran⟩
    · intro others rest same clearOthers lacksRest
      exact formatText_unique clearOthers clear lacksRest lacks same.symm
    · exact (Text.isLongest_takeWhile plain.mem last).congr plain_text_iff
  · obtain ⟨reply, ran⟩ := (ranking.terminates repeating_quotedSpecs).answers input
    have applied : grammar.apply quotedSpecs input = some reply := ran _ (Nat.le_refl _)
    refine ⟨reply, applied, fun success => ?_⟩
    rw [← apply_quotedSpecs_eq_ok_iff, applied]
    constructor
    · intro same
      exact ⟨reply.trace, congrArg some (by rw [← same])⟩
    · intro ⟨trace, same⟩
      exact congrArg Reply.outcome (Option.some.inj same)

end Format
end Backtrack
