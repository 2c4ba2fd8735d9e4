import Backtrack.Refusal
import Backtrack.Text

/-! Why a text is not parsed as a whole. A parser itself only ever refuses;
unread input is an error of the caller who wanted none, and callers may have
errors of their own. -/

namespace Backtrack

inductive ParseError where
  | refused (refusal : Refusal)
  | trailing (tail : Text)
  | custom (message : String)
  deriving DecidableEq, Repr

def ParseError.message : ParseError → String
  | .refused refusal => refusal.message
  | .trailing tail => "unexpected trailing input: " ++ Text.quoted tail
  | .custom message => message

end Backtrack
