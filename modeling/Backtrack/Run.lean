import Backtrack.CharClass
import Backtrack.Reply

/-! The meaning of a parser: a function from the input to its answer. A run has
no answer when a limit on its depth stops it first. The operations below are the
meanings of the parser constructors; each one is a law of its own, independent
of how parsers are written down. -/

namespace Backtrack

abbrev Run (α : Type) := Text → Option (Reply α)

namespace Run

def ret (value : α) : Run α := fun input => some ⟨[], .ok ⟨input, value⟩⟩

def refuse (refusal : Refusal) : Option (Reply α) :=
  some ⟨[.refused refusal], .error refusal⟩

def take (expected : CharClass) : Run Char
  | [] => refuse (.endOfInput expected.description)
  | c :: rest =>
    if expected.mem c then some ⟨[], .ok ⟨rest, c⟩⟩
    else refuse (.rejected c expected.description)

def map (f : α → β) (run : Run α) : Run β := fun input => (run input).map (Reply.map f)

/-- The second run starts where the first one ended and may depend on its value. -/
def bind (first : Run α) (next : α → Run β) : Run β := fun input =>
  match first input with
  | none => none
  | some ⟨trace, .error refusal⟩ => some ⟨trace, .error refusal⟩
  | some ⟨trace, .ok ⟨tail, value⟩⟩ => (next value tail).map (Reply.after trace)

def seq (first : Run α) (second : Run β) : Run (α × β) :=
  first.bind fun a => second.map fun b => (a, b)

/-- The second alternative starts again on the same input, and its answer
stands: the refusal of the first one is only recorded. -/
def alt (first second : Run α) : Run α := fun input =>
  match first input with
  | none => none
  | some ⟨trace, .error refusal⟩ =>
    (second input).map (Reply.after (trace ++ [.backtracked refusal]))
  | some ⟨trace, .ok success⟩ => some ⟨trace, .ok success⟩

/-- As many values as there are, at most as many attempts as the limit says. The
attempt that ends the repetition is undone, whatever it had read. -/
def many : Nat → Run α → Run (List α)
  | 0, _ => fun _ => none
  | limit + 1, run => alt (map (fun (first, rest) => first :: rest) (seq run (many limit run))) (ret [])

end Run
end Backtrack
