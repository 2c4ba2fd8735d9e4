import Backtrack.Command
import Backtrack.Proofs.Termination

/-! The two demands that a report can meet. Both are met from one answer: the whole text is
demanded of an opening that leaves nothing, and what is left over is the failure. That
nothing is left shows in the report of an opening, because a quoted text that is not
empty never ends in a blank and two quotes. -/

namespace Backtrack

/-! ## Quoted texts -/

namespace Text

/-- An escaped character ends in a quote only where it is the quote behind its backslash. -/
theorem escape_ends (c : Char) :
    escape '"' c = ['\\', '"'] ∨ ∃ front last, last ≠ '"' ∧ escape '"' c = front ++ [last] := by
  unfold escape
  by_cases isQuote : c = '"'
  · subst isQuote
    exact .inl rfl
  · refine .inr ?_
    split
    · exact ⟨['\\'], '0', by decide, rfl⟩
    split
    · exact ⟨['\\'], 't', by decide, rfl⟩
    split
    · exact ⟨['\\'], 'r', by decide, rfl⟩
    split
    · exact ⟨['\\'], 'n', by decide, rfl⟩
    split
    · exact ⟨['\\'], c, isQuote, rfl⟩
    split
    · exact ⟨_, '\x7d', by decide, rfl⟩
    · exact ⟨[], c, isQuote, rfl⟩

/-- The quotes around a text are next to each other behind a blank only where nothing is in between. -/
theorem eq_nil_of_quoted_ends (front before : Text) {text : Text}
    (same : front ++ [' ', '"', '"'] = before ++ ('"' :: text.flatMap (escape '"') ++ ['"'])) : text = [] := by
  rcases List.eq_nil_or_concat text with empty | ⟨init, c, rfl⟩
  · exact empty
  · have inner : (front ++ [' ']) ++ ['"'] = (before ++ '"' :: init.flatMap (escape '"')) ++ escape '"' c := by
      have outer : (front ++ [' ', '"']) ++ ['"'] = (before ++ '"' :: init.flatMap (escape '"') ++ escape '"' c) ++ ['"'] := by
        simpa using same
      simpa using (List.append_inj' outer rfl).1
    rcases escape_ends c with isQuote | ⟨start, last, other, ends⟩
    · rw [isQuote, show ['\\', '"'] = ['\\'] ++ ['"'] from rfl, ← List.append_assoc] at inner
      have blank := (List.append_inj' (List.append_inj' inner rfl).1 rfl).2
      cases blank
    · rw [ends, ← List.append_assoc] at inner
      exact absurd (List.head_eq_of_cons_eq (List.append_inj' inner rfl).2).symm other

theorem toList_quoted (text : Text) : (quoted text).toList = '"' :: text.flatMap (escape '"') ++ ['"'] :=
  String.toList_ofList

end Text

/-! ## One answer, two demands -/

/-- How the reports of a text are related that meet either demand. -/
structure DemandsAgree (report : Demand → Text → Option (Except Failure String)) : Prop where
  answered : ∀ demand input, ∃ outcome, report demand input = some outcome
  /-- The whole text is read where its opening leaves nothing. -/
  whole_iff : ∀ input text,
    report .whole input = some (.ok text) ↔ report .opening input = some (.ok (text ++ "\ntail: \"\""))
  /-- The text that was attempted stands outermost. -/
  chain : ∀ demand input failure, report demand input = some (.error failure) →
    failure.chain = ["failed to parse " ++ Text.quoted input, failure.cause.message]
  /-- The opening fails in the same way, or it leaves what the failure of the whole shows. -/
  failed : ∀ input failure, report .whole input = some (.error failure) →
    report .opening input = some (.error failure) ∨
    ∃ text tail, tail ≠ [] ∧ report .opening input = some (.ok (text ++ "\ntail: " ++ Text.quoted tail)) ∧
      failure.cause.message = "unexpected trailing input: " ++ Text.quoted tail

/-- What comes of one text: it is refused under both demands, read to its end under both, or read
in part, which is a failure only where the whole is demanded. -/
inductive Classified (report : Demand → Option (Except Failure String)) (input : Text) : Prop where
  | refused {refusal} (alike : ∀ demand, report demand = some (.error ⟨input, .refused refusal⟩))
  | read {text} (whole : report .whole = some (.ok text))
      (opening : report .opening = some (.ok (text ++ "\ntail: \"\"")))
  | trailing {text tail} (left : tail ≠ []) (whole : report .whole = some (.error ⟨input, .trailing tail⟩))
      (opening : report .opening = some (.ok (text ++ "\ntail: " ++ Text.quoted tail)))

theorem Grammar.Terminates.classified {Rule : Type → Type} {grammar : Grammar Rule} {parser : Parser Rule α} [Literal α]
    (terminates : grammar.Terminates parser) (input : Text) :
    Classified (fun demand => grammar.report parser demand input) input := by
  obtain ⟨⟨trace, outcome⟩, ran⟩ := terminates.exists_reply input
  cases outcome with
  | error refusal =>
    have alike (demand : Demand) : grammar.report parser demand input = some (.error ⟨input, .refused refusal⟩) := by
      cases demand <;> simp only [report, parseAll, ran, complete, Option.map_some]
    exact .refused alike
  | ok success =>
    obtain ⟨tail, value⟩ := success
    have opening : grammar.report parser .opening input =
        some (.ok (Literal.text value ++ "\ntail: " ++ Text.quoted tail)) := by
      simp only [report, ran, Option.map_some]
    cases tail with
    | nil =>
      have shown : Literal.text value ++ "\ntail: " ++ Text.quoted [] = Literal.text value ++ "\ntail: \"\"" :=
        String.append_assoc
      rw [shown] at opening
      exact .read (by simp only [report, parseAll, ran, complete, Option.map_some]) opening
    | cons c rest =>
      have whole : grammar.report parser .whole input = some (.error ⟨input, .trailing (c :: rest)⟩) := by
        simp only [report, parseAll, ran, complete, Option.map_some]
      exact .trailing (List.cons_ne_nil c rest) whole opening

theorem tail_eq_nil_of_opening_text {value text : String} {tail : Text}
    (same : value ++ "\ntail: " ++ Text.quoted tail = text ++ "\ntail: \"\"") : tail = [] := by
  apply Text.eq_nil_of_quoted_ends (text.toList ++ "\ntail:".toList) (value ++ "\ntail: ").toList
  have lists := congrArg String.toList same
  rw [String.toList_append, Text.toList_quoted, String.toList_append (s := text)] at lists
  rw [List.append_assoc]
  exact lists.symm

theorem DemandsAgree.of_classified {report : Demand → Text → Option (Except Failure String)}
    (classified : ∀ input, Classified (fun demand => report demand input) input) : DemandsAgree report where
  answered := by
    intro demand input
    cases classified input with
    | refused alike => exact ⟨_, alike demand⟩
    | read whole opening =>
      cases demand with
      | whole => exact ⟨_, whole⟩
      | opening => exact ⟨_, opening⟩
    | trailing left whole opening =>
      cases demand with
      | whole => exact ⟨_, whole⟩
      | opening => exact ⟨_, opening⟩
  whole_iff := by
    intro input text
    cases classified input with
    | refused alike =>
      rw [alike .whole, alike .opening]
      exact iff_of_false nofun nofun
    | read whole opening => simp only [whole, opening, Option.some_inj, Except.ok.injEq, String.append_left_inj]
    | trailing left whole opening =>
      simp only [whole, opening]
      exact iff_of_false nofun fun same => left (tail_eq_nil_of_opening_text (Except.ok.inj (Option.some.inj same)))
  chain := by
    intro demand input failure failed
    cases classified input with
    | refused alike =>
      cases (alike demand).symm.trans failed
      rfl
    | read whole opening =>
      cases demand with
      | whole => cases whole.symm.trans failed
      | opening => cases opening.symm.trans failed
    | trailing left whole opening =>
      cases demand with
      | whole =>
        cases whole.symm.trans failed
        rfl
      | opening => cases opening.symm.trans failed
  failed := by
    intro input failure failed
    cases classified input with
    | refused alike =>
      cases (alike .whole).symm.trans failed
      exact .inl (alike .opening)
    | read whole _ => cases whole.symm.trans failed
    | trailing left whole opening =>
      cases whole.symm.trans failed
      exact .inr ⟨_, _, left, opening, rfl⟩

theorem Grammar.Terminates.demandsAgree {Rule : Type → Type} {grammar : Grammar Rule} {parser : Parser Rule α}
    [Literal α] (terminates : grammar.Terminates parser) : DemandsAgree (grammar.report parser) :=
  .of_classified terminates.classified

/-! ## The grammars of the library -/

theorem Balanced.demandsAgree (name : Rule Tree) : DemandsAgree (grammar.report (.rule name)) :=
  (ranking.rulesTerminate.rule name).demandsAgree

theorem Sample.demandsAgree (sample : Sample) : DemandsAgree sample.report := by
  cases sample with
  | brackets => exact Balanced.demandsAgree .basic
  | arithmetic => exact ((Arithmetic.ranking Float).rulesTerminate.rule Arithmetic.Rule.sum).demandsAgree
  | call => exact (Format.ranking.terminates Format.repeating_call).demandsAgree

/-- The program never lacks an answer, apart from the words of its help. -/
theorem Command.exists_output {command : Command} (worded : command ≠ .help) :
    ∃ output, command.output = some output := by
  cases command with
  | version => exact ⟨_, rfl⟩
  | help => exact absurd rfl worded
  | report sample input demand =>
    obtain ⟨outcome, reported⟩ := sample.demandsAgree.answered demand input.toList
    rw [output, reported]
    exact ⟨_, rfl⟩

/-- The grammars that come with the library meet the two demands alike, and so do the parsers that
they are made of. -/
theorem grammars_agree_on_demands :
    (∀ sample : Sample, DemandsAgree sample.report) ∧
    (∀ name : Balanced.Rule Balanced.Tree, DemandsAgree (Balanced.grammar.report (.rule name))) ∧
    (DemandsAgree ((Arithmetic.grammar Float).report (Arithmetic.integer : Parser _ Float)) ∧
      DemandsAgree ((Arithmetic.grammar Float).report (Arithmetic.fraction : Parser _ Float)) ∧
      DemandsAgree ((Arithmetic.grammar Float).report (Arithmetic.number : Parser _ Float))) ∧
    DemandsAgree (Format.grammar.report Format.specs) ∧
      DemandsAgree (Format.grammar.report Format.quotedSpecs) ∧
      ∀ specs, DemandsAgree (Format.grammar.report (Format.arguments specs)) := by
  have expressions := Arithmetic.ranking Float
  refine ⟨Sample.demandsAgree, Balanced.demandsAgree, ⟨?_, ?_, ?_⟩, (Format.ranking.rulesTerminate.rule _).demandsAgree,
    ?_, fun specs => ?_⟩
  · exact (expressions.terminates Arithmetic.repeating_integer).demandsAgree
  · exact (expressions.terminates Arithmetic.repeating_fraction).demandsAgree
  · exact (expressions.terminates Arithmetic.repeating_number).demandsAgree
  · exact (Format.ranking.terminates Format.repeating_quotedSpecs).demandsAgree
  · exact (Format.ranking.terminates (Format.repeating_arguments specs)).demandsAgree

example : Sample.brackets.report .opening ['(', ')', ')'] = some (.ok "Node(Leaf, Leaf)\ntail: \")\"") := rfl
example : Sample.brackets.report .whole ['(', ')', ')'] = some (.error ⟨['(', ')', ')'], .trailing [')']⟩) := rfl

end Backtrack
