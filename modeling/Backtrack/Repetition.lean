import Backtrack.Grammar

/-! Greedy repetition as a relation: what a loop does that runs until it is
refused. -/

namespace Backtrack

/-- Every success is followed by less text than it started on. -/
def Run.Consumes (run : Run α) : Prop :=
  ∀ input trace success, run input = some ⟨trace, .ok success⟩ → success.tail.length < input.length

/-- One success of what is repeated: where it starts, what it records, and its value. -/
structure Round (α : Type) where
  input : Text
  trace : Trace
  value : α

/-- The rounds one after the other from the input on, each on what the one before it has
left, the text on which the parser is refused at last, and the trace and the refusal
of that attempt. -/
inductive Grammar.Repeats (grammar : Grammar Rule) (parser : Parser Rule α) :
    Text → List (Round α) → Text → Trace → Refusal → Prop where
  | stop {input trace refusal} (refused : grammar.Answers parser input ⟨trace, .error refusal⟩) :
      Repeats grammar parser input [] input trace refusal
  | step {input trace tail value rounds last final refusal}
      (read : grammar.Answers parser input ⟨trace, .ok ⟨tail, value⟩⟩)
      (later : Repeats grammar parser tail rounds last final refusal) :
      Repeats grammar parser input (⟨input, trace, value⟩ :: rounds) last final refusal

end Backtrack
