import Backtrack.Parser.Basic

/-! Parsers made of the basic ones. None of them reads or refuses anything by
itself, so what they answer and record follows from their parts. -/

namespace Backtrack.Parser

variable {Rule : Type → Type} {α β δ : Type}

def oneOf (members : List Char) : Parser Rule Char := .take (.oneOf members)

def noneOf (members : List Char) : Parser Rule Char := .take (.noneOf members)

/-- The given characters, one after the other. -/
def literal : Text → Parser Rule Text
  | [] => .ret []
  | c :: rest => .map (fun (first, others) => first :: others) (.seq (oneOf [c]) (literal rest))

def string (text : String) : Parser Rule String :=
  .map String.ofList (literal text.toList)

/-! Parsers that run one after the other, and a function of all their values in the
order in which they are read. -/

def map2 (first : Parser Rule α) (second : Parser Rule β) (f : α → β → δ) : Parser Rule δ :=
  .map (fun (a, b) => f a b) (.seq first second)

def map3 (first : Parser Rule α₁) (second : Parser Rule α₂) (third : Parser Rule α₃)
    (f : α₁ → α₂ → α₃ → δ) : Parser Rule δ :=
  .map (fun (a, b, c) => f a b c) (.seq first (.seq second third))

def map4 (first : Parser Rule α₁) (second : Parser Rule α₂) (third : Parser Rule α₃)
    (fourth : Parser Rule α₄) (f : α₁ → α₂ → α₃ → α₄ → δ) : Parser Rule δ :=
  .map (fun (a, b, c, d) => f a b c d) (.seq first (.seq second (.seq third fourth)))

def map5 (first : Parser Rule α₁) (second : Parser Rule α₂) (third : Parser Rule α₃)
    (fourth : Parser Rule α₄) (fifth : Parser Rule α₅) (f : α₁ → α₂ → α₃ → α₄ → α₅ → δ) : Parser Rule δ :=
  .map (fun (a, b, c, d, e) => f a b c d e) (.seq first (.seq second (.seq third (.seq fourth fifth))))

/-- The first alternative that succeeds. The choice associates to the left. -/
def choice (first : Parser Rule α) (others : List (Parser Rule α)) : Parser Rule α :=
  others.foldl .alt first

/-- Succeeds with the default, reading nothing, where the parser is refused. -/
def optional (parser : Parser Rule α) (default : α) : Parser Rule α :=
  .alt parser (.ret default)

/-- One value or more. -/
protected def some (parser : Parser Rule α) : Parser Rule (List α) :=
  map2 parser (.many parser) List.cons

/-- A fixed number of values. -/
def times (parser : Parser Rule α) : Nat → Parser Rule (List α)
  | 0 => .ret []
  | count + 1 => map2 parser (times parser count) List.cons

end Backtrack.Parser
