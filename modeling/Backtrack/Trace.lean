import Backtrack.Refusal
import Backtrack.Text

/-! What a run records: every refusal of a character class, and every time a
choice gives up its first alternative. Records stand in the order of the run,
once for each attempt, those of abandoned alternatives included. -/

namespace Backtrack

inductive Record where
  | refused (refusal : Refusal)
  | backtracked (refusal : Refusal)
  deriving DecidableEq, Repr

abbrev Trace := List Record

/-- The records of refusals that were each followed by a retreat. -/
def Trace.retreats (refusals : List Refusal) : Trace :=
  refusals.flatMap fun refusal => [.refused refusal, .backtracked refusal]

/-- Whether a character was looked for where the input had ended. -/
def Trace.reachesEnd (trace : Trace) : Bool :=
  trace.any fun
    | .refused (.endOfInput _) => true
    | _ => false

/-- In a record the found character is written as a literal. In the message of
the same refusal it is not. -/
def Record.text : Record → String
  | .refused (.rejected found expected) =>
      "rejected " ++ Text.quotedChar found ++ ", expected symbol " ++ expected
  | .refused (.endOfInput expected) => "end of input, expected symbol " ++ expected
  | .backtracked refusal => "first alternative failed (" ++ refusal.message ++ "), backtracking"

end Backtrack
