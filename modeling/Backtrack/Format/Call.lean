import Backtrack.Arithmetic.Language
import Backtrack.Format.Spec

/-! The texts of calls: format texts, the arguments that they ask for, and how the
two make up a call. -/

namespace Backtrack.Format

open Arithmetic (Derives)

/-- A spec and the text in front of it. -/
structure Piece where
  before : Text
  spec : Spec
  deriving DecidableEq, Repr

def Piece.text (piece : Piece) : Text := piece.before ++ ['%', piece.spec.letter]

/-- The specs with the texts in front of them, and the text after the last one. -/
def formatText (pieces : List Piece) (last : Text) : Text := pieces.flatMap Piece.text ++ last

/-- No spec is found at the first percent sign, nor is there one before it. -/
def LacksSpec (text : Text) : Prop :=
  ∀ before after, text = before ++ '%' :: after → '%' ∉ before → ∀ (spec : Spec) rest, after ≠ spec.letter :: rest

inductive IsArgument : Spec → Text → Prop where
  | str {content} : '"' ∉ content → IsArgument .str (',' :: '"' :: content ++ ['"'])
  | num {content} : Derives .sum content → IsArgument .num (',' :: content)

/-- One argument for each spec. -/
inductive AreArguments : List Spec → Text → Prop where
  | nil : AreArguments [] []
  | cons {spec specs argument arguments} : IsArgument spec argument → AreArguments specs arguments →
      AreArguments (spec :: specs) (argument ++ arguments)

def callText (format arguments : Text) : Text :=
  "printf(".toList ++ '"' :: format ++ '"' :: arguments ++ [')']

end Backtrack.Format
