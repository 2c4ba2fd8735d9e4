/-! Why a character class did not match. Every failure of a parser is one of
these: sequencing and choice hand a refusal on, they never make a new one. -/

namespace Backtrack

/-- The class that did not match, given by its description, and what stood in
the input instead. -/
inductive Refusal where
  | rejected (found : Char) (expected : String)
  | endOfInput (expected : String)
  deriving DecidableEq, Repr

/-- The found character stands as it is, also where it would not show. -/
def Refusal.message : Refusal → String
  | .rejected found expected => "symbol '" ++ found.toString ++ "' does not satisfy predicate: " ++ expected
  | .endOfInput expected => "input is empty, expected symbol " ++ expected

end Backtrack
