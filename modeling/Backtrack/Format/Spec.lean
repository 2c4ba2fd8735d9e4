import Backtrack.Literal

/-! What a conversion in a format text asks for. -/

namespace Backtrack.Format

/-- `%s` takes a quoted text, `%f` an arithmetic expression. -/
inductive Spec where
  | str
  | num
  deriving DecidableEq, Repr

def Spec.letter : Spec → Char
  | str => 's'
  | num => 'f'

def Spec.text : Spec → String
  | str => "Str"
  | num => "Num"

instance : Literal Spec := ⟨Spec.text⟩

end Backtrack.Format
