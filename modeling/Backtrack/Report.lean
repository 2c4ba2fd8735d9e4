import Backtrack.Grammar
import Backtrack.Literal

/-! The report of a parse for people: the value as a literal, or what failed. -/

namespace Backtrack

/-- Whether the whole text must be read, or its opening is enough. -/
inductive Demand where
  | whole
  | opening
  deriving DecidableEq, Repr

structure Failure where
  input : Text
  cause : ParseError
  deriving DecidableEq, Repr

namespace Failure

/-- What was attempted. -/
def context (failure : Failure) : String := "failed to parse " ++ Text.quoted failure.input

/-- From what was attempted to what went wrong. -/
def chain (failure : Failure) : List String := [failure.context, failure.cause.message]

def message (failure : Failure) : String := ": ".intercalate failure.chain

def indentation : List Char := [' ', ' ', ' ', ' ']

/-- Every line of the text moved to the right. -/
def indent (text : String) : String :=
  String.ofList (indentation ++ text.toList.flatMap fun c => if c = '\n' then c :: indentation else [c])

/-- The failure as several lines, the cause below the context. -/
def text (failure : Failure) : String :=
  "Error: " ++ failure.context ++ "\n\nCaused by:\n" ++ indent failure.cause.message ++ "\n"

end Failure

namespace Grammar

/-- The value alone when the whole text was read. Otherwise the unread rest is
shown on a second line, also when it is empty. -/
def report [Literal α] (grammar : Grammar Rule) (parser : Parser Rule α) (demand : Demand) (input : Text) :
    Option (Except Failure String) :=
  match demand with
  | .whole =>
    (grammar.parseAll parser input).map fun
      | .error cause => .error ⟨input, cause⟩
      | .ok value => .ok (Literal.text value)
  | .opening =>
    (grammar.apply parser input).map fun reply =>
      match reply.outcome with
      | .error refusal => .error ⟨input, .refused refusal⟩
      | .ok success => .ok (Literal.text success.value ++ "\ntail: " ++ Text.quoted success.tail)

end Grammar
end Backtrack
