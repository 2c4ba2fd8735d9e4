import Backtrack.Alternatives
import Backtrack.Arithmetic.Expression
import Backtrack.Arithmetic.Language
import Backtrack.Arithmetic.Loop
import Backtrack.Arithmetic.Shape
import Backtrack.Balanced.Excess
import Backtrack.Calls
import Backtrack.Format.Call
import Backtrack.Main
import Backtrack.Parser.Outline
import Backtrack.Proofs.BalancedText
import Backtrack.Proofs.CallAcceptance
import Backtrack.Proofs.CallRecognition
import Backtrack.Proofs.DepthIndependence
import Backtrack.Proofs.ExpressionRoundTrip
import Backtrack.Proofs.LongestExpression
import Backtrack.Proofs.TraceDiscipline
import Backtrack.Proofs.TreeReading
import Backtrack.Proofs.UnreadText
import Backtrack.Repetition
import Backtrack.Succession
import Backtrack.Text.Longest
import Backtrack.Proofs.SuffixDiscipline
import Backtrack.Proofs.Ranking
import Backtrack.Proofs.Termination
import Backtrack.Proofs.OnePass
import Backtrack.Proofs.Renditions
import Backtrack.Proofs.AnswerLaws
import Backtrack.Proofs.GreedyRepetition
import Backtrack.Proofs.FormatScan
import Backtrack.Proofs.RecordCount
import Backtrack.Proofs.RefusedExpression
import Backtrack.Proofs.NumeralRecords
import Backtrack.Proofs.WrappedExpression
import Backtrack.Arithmetic.Pattern
import Backtrack.Proofs.LongestNumeral
import Backtrack.Proofs.NumeralDenotation
import Backtrack.Proofs.ArgumentOrder
import Backtrack.Proofs.NestedChoice
import Backtrack.Proofs.NestedSequence
import Backtrack.Proofs.LeftFactoring
import Backtrack.Proofs.CountedRepetition
import Backtrack.Proofs.LiteralMatch
import Backtrack.Proofs.BracketAttempts
import Backtrack.Proofs.NestingDepth
import Backtrack.Proofs.DemandAgreement
import Backtrack.Proofs.ParseShape
