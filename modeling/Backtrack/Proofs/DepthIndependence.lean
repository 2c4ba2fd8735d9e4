import Backtrack.Proofs.GrammarRun

/-! More depth changes no answer. What a run answers within some depth it answers within
every larger one, so a parser has at most one answer on a text. -/

namespace Backtrack

variable {Rule : Type → Type}

namespace Run

/-- Where the run answers, the other one gives the same answer. -/
def Within (run deeper : Run α) : Prop :=
  ∀ input reply, run input = some reply → deeper input = some reply

theorem Within.refl (run : Run α) : run.Within run :=
  fun _ _ ran => ran

theorem endless_within (run : Run α) : Within (fun _ => none) run :=
  fun _ _ ran => nomatch ran

theorem Within.map (f : α → β) {run deeper : Run α} (within : run.Within deeper) :
    (Run.map f run).Within (Run.map f deeper) := by
  intro input reply ran
  obtain ⟨inner, same, rfl⟩ := map_eq_some_iff.mp ran
  exact map_eq_some_iff.mpr ⟨inner, within input inner same, rfl⟩

theorem Within.bind {first deeper : Run α} {next later : α → Run β} (left : first.Within deeper)
    (right : ∀ value, (next value).Within (later value)) : (Run.bind first next).Within (Run.bind deeper later) := by
  intro input reply ran
  apply bind_eq_some_iff.mpr
  rcases bind_eq_some_iff.mp ran with ⟨trace, refusal, refused, same⟩ | ⟨trace, tail, value, rest, read, continued, same⟩
  · exact .inl ⟨trace, refusal, left input _ refused, same⟩
  · exact .inr ⟨trace, tail, value, rest, left input _ read, right value tail rest continued, same⟩

theorem Within.seq {first deeper : Run α} {second later : Run β} (left : first.Within deeper)
    (right : second.Within later) : (Run.seq first second).Within (Run.seq deeper later) :=
  left.bind fun _ => right.map _

theorem Within.alt {first second deeper later : Run α} (left : first.Within deeper) (right : second.Within later) :
    (Run.alt first second).Within (Run.alt deeper later) := by
  intro input reply ran
  apply alt_eq_some_iff.mpr
  rcases alt_eq_some_iff.mp ran with ⟨trace, refusal, rest, refused, continued, same⟩ | ⟨trace, success, read, same⟩
  · exact .inl ⟨trace, refusal, rest, left input _ refused, right input rest continued, same⟩
  · exact .inr ⟨trace, success, left input _ read, same⟩

theorem Within.many {run deeper : Run α} (item : run.Within deeper) {limit further : Nat} (more : limit ≤ further) :
    (Run.many limit run).Within (Run.many further deeper) := by
  induction limit generalizing further with
  | zero => exact endless_within _
  | succ limit ih =>
    obtain ⟨further, rfl⟩ := Nat.exists_eq_succ_of_ne_zero (Nat.ne_zero_of_lt more)
    exact ((item.seq (ih (Nat.le_of_succ_le_succ more))).map _).alt (.refl _)

end Run

theorem Parser.interpret_within {call deeper : ∀ {α : Type}, Rule α → Run α}
    (called : ∀ {α : Type} (name : Rule α), Run.Within (call name) (deeper name)) {limit further : Nat}
    (more : limit ≤ further) (parser : Parser Rule α) :
    Run.Within (parser.interpret call limit) (parser.interpret deeper further) := by
  induction parser with
  | take expected => exact .refl _
  | ret value => exact .refl _
  | seq first second left right => exact left.seq right
  | alt first second left right => exact left.alt right
  | map f parser ih => exact ih.map f
  | bind first next left right => exact left.bind right
  | lazy supply ih => exact ih ()
  | rule name => exact called name
  | many parser ih => exact ih.many more

namespace Grammar

variable (grammar : Grammar Rule)

theorem run_within {depth deeper : Nat} (more : depth ≤ deeper) (parser : Parser Rule α) :
    Run.Within (grammar.run depth parser) (grammar.run deeper parser) := by
  induction depth generalizing deeper α with
  | zero =>
    cases deeper with
    | zero => exact .refl _
    | succ deeper => exact Parser.interpret_within (fun _ => Run.endless_within _) (Nat.zero_le _) parser
  | succ depth ih =>
    obtain ⟨deeper, rfl⟩ := Nat.exists_eq_succ_of_ne_zero (Nat.ne_zero_of_lt more)
    exact Parser.interpret_within (fun name => ih (Nat.le_of_succ_le_succ more) (grammar.body name)) more parser

theorem limit_le {input other : Text} (longer : input.length ≤ other.length) :
    grammar.limit input ≤ grammar.limit other :=
  Nat.mul_le_mul_left _ (Nat.add_le_add_right longer 2)

theorem length_lt_limit (input : Text) : input.length < grammar.limit input :=
  Nat.lt_of_lt_of_le (by omega) (Nat.le_mul_of_pos_left (input.length + 2) (Nat.succ_pos _))

variable {grammar} {parser : Parser Rule α} {input : Text} {reply other : Reply α}

theorem Answers.unique (first : grammar.Answers parser input reply) (second : grammar.Answers parser input other) :
    reply = other := by
  obtain ⟨depth, ran⟩ := first
  obtain ⟨deeper, again⟩ := second
  have left := grammar.run_within (Nat.le_max_left depth deeper) parser input reply ran
  have right := grammar.run_within (Nat.le_max_right depth deeper) parser input other again
  exact Option.some.inj (left.symm.trans right)

end Grammar
end Backtrack
