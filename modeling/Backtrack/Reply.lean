import Backtrack.Trace

/-! The answer of one run: what it recorded, and either a value with the text
that is left or the refusal that stopped it. -/

namespace Backtrack

/-- A value and the unread rest of the input. -/
structure Success (α : Type) where
  tail : Text
  value : α
  deriving DecidableEq, Repr

def Success.mapValue (f : α → β) (success : Success α) : Success β :=
  ⟨success.tail, f success.value⟩

structure Reply (α : Type) where
  trace : Trace
  outcome : Except Refusal (Success α)

namespace Reply

def map (f : α → β) (reply : Reply α) : Reply β :=
  ⟨reply.trace, reply.outcome.map (Success.mapValue f)⟩

/-- The same answer at the end of a longer run. -/
def after (earlier : Trace) (reply : Reply α) : Reply α :=
  ⟨earlier ++ reply.trace, reply.outcome⟩

/-- The answer on an input with more text behind it, if that text is not read. -/
def extend (more : Text) (reply : Reply α) : Reply α :=
  ⟨reply.trace, reply.outcome.map fun success => ⟨success.tail ++ more, success.value⟩⟩

end Reply
end Backtrack
