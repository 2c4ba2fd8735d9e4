import Backtrack.ParseError
import Backtrack.Parser.Basic

/-! Grammars give their rules a body. Running a grammar takes a bound on how
deeply rules call one another. A rule that calls itself again before it has read
anything can never answer, so a bound that lets every rule be entered once at
each position of the input loses nothing. -/

namespace Backtrack

/-- A body for each rule, and the number of rules. -/
structure Grammar (Rule : Type → Type) where
  body : ∀ {α : Type}, Rule α → Parser Rule α
  count : Nat

namespace Grammar

/-- Runs a parser over the grammar with rules nested at most `depth` deep. -/
def run (grammar : Grammar Rule) : Nat → ∀ {α : Type}, Parser Rule α → Text → Option (Reply α)
  | 0, _, parser, input => parser.interpret (fun _ _ => none) 0 input
  | depth + 1, _, parser, input =>
    parser.interpret (fun rule rest => run grammar depth (grammar.body rule) rest) (depth + 1) input

/-- A depth within which every run ends that ends at all: each rule once at each
position, and a repetition of one value for each character on top of that. -/
def limit (grammar : Grammar Rule) (input : Text) : Nat :=
  (grammar.count + 1) * (input.length + 2)

/-- There is no answer exactly when the rules call one another, or a repetition
goes on, without reading anything. -/
def apply (grammar : Grammar Rule) (parser : Parser Rule α) (input : Text) : Option (Reply α) :=
  grammar.run (grammar.limit input) parser input

/-- The run ends with this answer, at some depth. -/
def Answers (grammar : Grammar Rule) (parser : Parser Rule α) (input : Text) (reply : Reply α) : Prop :=
  ∃ depth, grammar.run depth parser input = some reply

/-- Accepts a value only when nothing of the input is left. -/
def complete : Except Refusal (Success α) → Except ParseError α
  | .error refusal => .error (.refused refusal)
  | .ok ⟨[], value⟩ => .ok value
  | .ok ⟨tail, _⟩ => .error (.trailing tail)

def parseAll (grammar : Grammar Rule) (parser : Parser Rule α) (input : Text) :
    Option (Except ParseError α) :=
  (grammar.apply parser input).map fun reply => complete reply.outcome

end Grammar

/-- The rules of two grammars side by side. -/
abbrev Both (Upper Lower : Type → Type) (α : Type) := Upper α ⊕ Lower α

/-- Adds rules on top of a grammar. The new rules may call those that are there,
which stay as they are. -/
def Grammar.extend (lower : Grammar Lower) (count : Nat)
    (body : ∀ {α : Type}, Upper α → Parser (Both Upper Lower) α) : Grammar (Both Upper Lower) where
  body
    | .inl name => body name
    | .inr name => (lower.body name).rename Sum.inr
  count := count + lower.count

/-- No rules. -/
inductive NoRule : Type → Type

def Grammar.empty : Grammar NoRule where
  body := nofun
  count := 0

end Backtrack
