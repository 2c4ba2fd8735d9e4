import Backtrack.Balanced.Grammar
import Backtrack.Format.Grammar
import Backtrack.Report

/-! The grammars that come with the library, by name. -/

namespace Backtrack

inductive Sample where
  | brackets
  | arithmetic
  | call
  deriving DecidableEq, Repr

namespace Sample

def name : Sample → String
  | brackets => "parens"
  | arithmetic => "expr"
  | call => "printf"

def ofName? (name : String) : Option Sample :=
  [brackets, arithmetic, call].find? (·.name = name)

def report : Sample → Demand → Text → Option (Except Failure String)
  | brackets => Balanced.grammar.report (.rule .basic)
  | arithmetic => (Arithmetic.grammar Float).report (.rule .sum)
  | call => Format.grammar.report Format.call

end Sample
end Backtrack
