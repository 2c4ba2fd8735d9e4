import Backtrack.Decimal.Notation
import Backtrack.ParseError
import Backtrack.Reply

/-! Values written as literals. A literal names what it is made of, and texts in
it are quoted. -/

namespace Backtrack

class Literal (α : Type) where
  text : α → String

namespace Literal

/-- A value of a structure or a constructor with named fields. -/
def record (name : String) (fields : List (String × String)) : String :=
  name ++ " \x7b " ++ ", ".intercalate (fields.map fun (field, value) => field ++ ": " ++ value) ++ " \x7d"

/-- A constructor applied to its arguments. -/
def applied (name : String) (arguments : List String) : String :=
  name ++ "(" ++ ", ".intercalate arguments ++ ")"

instance : Literal Unit := ⟨fun _ => "()"⟩
instance : Literal Int := ⟨toString⟩
instance : Literal Char := ⟨Text.quotedChar⟩
instance : Literal String := ⟨fun text => Text.quoted text.toList⟩
instance : Literal Float := ⟨Decimal.ofFloat⟩

instance [Literal α] [Literal β] : Literal (α × β) :=
  ⟨fun (a, b) => applied "" [text a, text b]⟩

instance [Literal α] : Literal (List α) :=
  ⟨fun values => "[" ++ ", ".intercalate (values.map text) ++ "]"⟩

instance [Literal α] : Literal (Success α) :=
  ⟨fun success => record "Success" [("tail", Text.quoted success.tail), ("value", text success.value)]⟩

instance : Literal ParseError :=
  ⟨fun error => record "ParseError" [("message", text error.message)]⟩

instance [Literal ε] [Literal α] : Literal (Except ε α) where
  text
    | .ok value => applied "Ok" [text value]
    | .error error => applied "Err" [text error]

end Literal
end Backtrack
