import Backtrack.Grammar

/-! Sequences of more than two parsers, nested in any way, and what comes of the same
parsers one after the other. -/

namespace Backtrack

/-- A nest of sequences over parsers in their order. -/
inductive Succession (Rule : Type → Type) : Type → Type 1 where
  | single {α : Type} (parser : Parser Rule α) : Succession Rule α
  | joined {α β : Type} (first : Succession Rule α) (second : Succession Rule β) : Succession Rule (α × β)

/-- A value together with its type. -/
structure AnyValue where
  {type : Type}
  value : type

structure AnyParser (Rule : Type → Type) where
  {type : Type}
  parser : Parser Rule type

namespace Succession

variable {Rule : Type → Type}

def toParser : ∀ {α : Type}, Succession Rule α → Parser Rule α
  | _, .single parser => parser
  | _, .joined first second => .seq first.toParser second.toParser

def parsers : ∀ {α : Type}, Succession Rule α → List (AnyParser Rule)
  | _, .single parser => [⟨parser⟩]
  | _, .joined first second => first.parsers ++ second.parsers

/-- The values in a nest of pairs, in their order. -/
def values : ∀ {α : Type}, Succession Rule α → α → List AnyValue
  | _, .single _, value => [⟨value⟩]
  | _, .joined first second, (a, b) => first.values a ++ second.values b

/-- The outcome of a nest, its values in one list. -/
def flat (nest : Succession Rule α) (outcome : Except Refusal (Success α)) : Except Refusal (List AnyValue × Text) :=
  outcome.map fun success => (nest.values success.value, success.tail)

end Succession

/-- What comes of parsers that run one after the other, each on what the one before it
has left: the values of all and the rest, or the refusal of the first that is refused.
Those behind it do not run. -/
inductive Grammar.InOrder {Rule : Type → Type} (grammar : Grammar Rule) :
    Text → List (AnyParser Rule) → Trace → Except Refusal (List AnyValue × Text) → Prop where
  | done {input} : InOrder grammar input [] [] (.ok ([], input))
  | refused {input α rest trace refusal} {parser : Parser Rule α} :
      grammar.Answers parser input ⟨trace, .error refusal⟩ →
      InOrder grammar input (⟨parser⟩ :: rest) trace (.error refusal)
  | read {input α rest trace tail later outcome} {parser : Parser Rule α} {value : α} :
      grammar.Answers parser input ⟨trace, .ok ⟨tail, value⟩⟩ → InOrder grammar tail rest later outcome →
      InOrder grammar input (⟨parser⟩ :: rest) (trace ++ later)
        (outcome.map fun (values, last) => (⟨value⟩ :: values, last))

/-- The parsers run in order, and a function makes one value of all of theirs. -/
def Grammar.Combines {Rule : Type → Type} (grammar : Grammar Rule) (parsers : List (AnyParser Rule))
    (values : α → List AnyValue) (combine : α → β) (input : Text) (reply : Reply β) : Prop :=
  ∃ own : Except Refusal (Success α), reply.outcome = own.map (Success.mapValue combine) ∧
    grammar.InOrder input parsers reply.trace (own.map fun success => (values success.value, success.tail))

end Backtrack
