/-! Classes of characters. A class carries the description under which a refusal
reports it; two classes with the same members may be described differently. -/

namespace Backtrack

/-- A set of characters, given by its membership test, and the words for it. -/
structure CharClass where
  description : String
  mem : Char → Bool

namespace CharClass

/-- The members in the given order, duplicates kept, between brackets. -/
def listing (members : List Char) : String :=
  "[" ++ ", ".intercalate (members.map String.singleton) ++ "]"

def oneOf (members : List Char) : CharClass where
  description := "in " ++ listing members
  mem := members.contains

def noneOf (members : List Char) : CharClass where
  description := "not in " ++ listing members
  mem := fun c => !members.contains c

end CharClass
end Backtrack
