import Backtrack.Literal
import Backtrack.Parser.Derived

/-! Parsers that can be shown. An outline holds no function but the membership
test of a class, so it has a literal, and it is also a parser. -/

namespace Backtrack

inductive Outline : Type → Type 1 where
  | take (expected : CharClass) : Outline Char
  | ret {α : Type} [Literal α] (value : α) : Outline α
  | seq {α β : Type} (first : Outline α) (second : Outline β) : Outline (α × β)
  | alt {α : Type} (first second : Outline α) : Outline α

namespace Outline

def toParser : Outline α → Parser Rule α
  | .take expected => .take expected
  | @Outline.ret _ _ value => .ret value
  | .seq first second => .seq (toParser first) (toParser second)
  | .alt first second => .alt (toParser first) (toParser second)

/-- The membership test is not shown; the dots say that something is missing. -/
def classText (expected : CharClass) : String :=
  "TakeIf \x7b description: " ++ Literal.text expected.description ++ ", .. \x7d"

def text : Outline α → String
  | .take expected => classText expected
  | @Outline.ret _ _ value => Literal.record "Return" [("value", Literal.text value)]
  | .seq first second => Literal.record "Seq" [("first", text first), ("second", text second)]
  | .alt first second => Literal.record "Alt" [("first", text first), ("second", text second)]

def optional [Literal α] (outline : Outline α) (default : α) : Outline α := .alt outline (.ret default)

end Outline
end Backtrack
