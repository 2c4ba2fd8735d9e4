import Backtrack.Grammar

/-! What happens in the course of a run: which rules are called and which character
classes are tried, and on what input. A rule that is called again within its own run
answers only if it has read something in between. -/

namespace Backtrack

/-- A rule, and the text that it is entered with. -/
structure Call (Rule : Type → Type) where
  {type : Type}
  rule : Rule type
  input : Text

/-- A character class, and the text that it is tried on. -/
structure Attempt where
  expected : CharClass
  input : Text

namespace Attempt

/-- Why the class refuses the text, if it does. -/
def refusal? (attempt : Attempt) : Option Refusal :=
  match attempt.input with
  | [] => some (.endOfInput attempt.expected.description)
  | c :: _ => if attempt.expected.mem c then none else some (.rejected c attempt.expected.description)

end Attempt

variable {Rule : Type → Type}

/-- What is collected after a success. -/
def Run.onSuccess (run : Run α) (input : Text) (next : Success α → List κ) : List κ :=
  match run input with
  | some ⟨_, .ok success⟩ => next success
  | _ => []

/-- What is collected after a refusal. -/
def Run.onRefusal (run : Run α) (input : Text) (next : List κ) : List κ :=
  match run input with
  | some ⟨_, .error _⟩ => next
  | _ => []

/-- What is collected by all attempts of a repetition. -/
def Run.onAttempts (run : Run α) (collect : Text → List κ) : Nat → Text → List κ
  | 0, _ => []
  | limit + 1, input =>
    collect input ++ run.onSuccess input fun success => run.onAttempts collect limit success.tail

namespace Parser

/-- What is collected in the course of a run, in order: something for each class that is
tried and something for each rule that is called. What is abandoned later counts too. -/
def collect (call : ∀ {α : Type}, Rule α → Run α) (limit : Nat) (tried : CharClass → Text → List κ)
    (called : ∀ {α : Type}, Rule α → Text → List κ) : ∀ {α : Type}, Parser Rule α → Text → List κ
  | _, .take expected, input => tried expected input
  | _, .ret _, _ => []
  | _, .seq first second, input =>
    collect call limit tried called first input ++
      Run.onSuccess (interpret call limit first) input fun success =>
        collect call limit tried called second success.tail
  | _, .alt first second, input =>
    collect call limit tried called first input ++
      Run.onRefusal (interpret call limit first) input (collect call limit tried called second input)
  | _, .map _ parser, input => collect call limit tried called parser input
  | _, .bind first next, input =>
    collect call limit tried called first input ++
      Run.onSuccess (interpret call limit first) input fun success =>
        collect call limit tried called (next success.value) success.tail
  | _, .lazy supply, input => collect call limit tried called (supply ()) input
  | _, .rule name, input => called name input
  | _, .many parser, input =>
    Run.onAttempts (interpret call limit parser) (collect call limit tried called parser) limit input

/-- The calls that a parser makes itself, in order. Those that the called rules make
in turn are theirs. -/
def calls (call : ∀ {α : Type}, Rule α → Run α) (limit : Nat) (parser : Parser Rule α) (input : Text) :
    List (Call Rule) :=
  parser.collect call limit (fun _ _ => []) (fun rule rest => [⟨rule, rest⟩]) input

/-- A parser and what it is made of, whatever the values that decide its course. -/
inductive Part : ∀ {α β : Type}, Parser Rule α → Parser Rule β → Prop where
  | whole {α : Type} {parser : Parser Rule α} : Part parser parser
  | seqFirst {α β γ : Type} {part : Parser Rule γ} {first : Parser Rule α} {second : Parser Rule β} :
      Part part first → Part part (.seq first second)
  | seqSecond {α β γ : Type} {part : Parser Rule γ} {first : Parser Rule α} {second : Parser Rule β} :
      Part part second → Part part (.seq first second)
  | altFirst {α γ : Type} {part : Parser Rule γ} {first second : Parser Rule α} :
      Part part first → Part part (.alt first second)
  | altSecond {α γ : Type} {part : Parser Rule γ} {first second : Parser Rule α} :
      Part part second → Part part (.alt first second)
  | map {α β γ : Type} {part : Parser Rule γ} {f : α → β} {parser : Parser Rule α} :
      Part part parser → Part part (.map f parser)
  | bindFirst {α β γ : Type} {part : Parser Rule γ} {first : Parser Rule α} {next : α → Parser Rule β} :
      Part part first → Part part (.bind first next)
  | bindNext {α β γ : Type} {part : Parser Rule γ} {first : Parser Rule α} {next : α → Parser Rule β} (value : α) :
      Part part (next value) → Part part (.bind first next)
  | lazy {α γ : Type} {part : Parser Rule γ} {supply : Unit → Parser Rule α} :
      Part part (supply ()) → Part part (.lazy supply)
  | many {α γ : Type} {part : Parser Rule γ} {parser : Parser Rule α} :
      Part part parser → Part part (.many parser)

end Parser

namespace Grammar

/-- One call is made by the body of the rule of the other, at some depth. -/
def Enters (grammar : Grammar Rule) (outer inner : Call Rule) : Prop :=
  ∃ depth, inner ∈ (grammar.body outer.rule).calls
    (fun rule rest => grammar.run depth (grammar.body rule) rest) (depth + 1) outer.input

/-- Every class that is tried in a run, those that the called rules try included. -/
def attempts (grammar : Grammar Rule) : Nat → ∀ {α : Type}, Parser Rule α → Text → List Attempt
  | 0, _, parser, input =>
    parser.collect (fun _ _ => none) 0 (fun expected rest => [⟨expected, rest⟩]) (fun _ _ => []) input
  | depth + 1, _, parser, input =>
    parser.collect (fun rule rest => grammar.run depth (grammar.body rule) rest) (depth + 1)
      (fun expected rest => [⟨expected, rest⟩])
      (fun rule rest => attempts grammar depth (grammar.body rule) rest) input

end Grammar
end Backtrack
