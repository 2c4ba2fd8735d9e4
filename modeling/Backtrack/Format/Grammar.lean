import Backtrack.Arithmetic.Grammar
import Backtrack.Format.Spec

/-! A call with a format text, whose arguments must be those that the text asks
for.

    call     := "printf" '(' '"' specs '"' argument ... ')'
    specs    := [^%]* spec specs | [^%"]*
    spec     := '%' 's' | '%' 'f'
    argument := ',' '"' [^"]* '"' | ',' sum

How many arguments there are and of which kind is not fixed by the grammar: they
are parsed by a parser made from the specs of the format text. -/

namespace Backtrack.Format

inductive Rule : Type → Type where
  | specs : Rule (List Spec)

/-- The rules of a call and those of arithmetic expressions. -/
abbrev CallRule := Both Rule (Arithmetic.Rule Float)

def percent : CharClass := .oneOf ['%']
def notPercent : CharClass := .noneOf ['%']
def plain : CharClass := .noneOf ['%', '"']
def quote : CharClass := .oneOf ['"']
def notQuote : CharClass := .noneOf ['"']
def comma : CharClass := .oneOf [',']
def opening : CharClass := .oneOf ['(']
def closing : CharClass := .oneOf [')']
def strLetter : CharClass := .oneOf ['s']
def numLetter : CharClass := .oneOf ['f']

def spec : Parser CallRule Spec :=
  .alt (.map2 (.take percent) (.take strLetter) fun _ _ => .str)
    (.map2 (.take percent) (.take numLetter) fun _ _ => .num)

/-- The first alternative looks for a spec through anything that is not a percent
sign, quotes included. -/
def body : ∀ {α : Type}, Rule α → Parser CallRule α
  | _, .specs =>
    .alt
      (.map3 (.many (.take notPercent)) spec (.rule (.inl .specs)) fun _ spec specs => spec :: specs)
      (.map (fun _ => []) (.many (.take plain)))

def grammar : Grammar CallRule := (Arithmetic.grammar Float).extend 1 body

def specs : Parser CallRule (List Spec) := .rule (.inl .specs)

def sum : Parser CallRule Float := .rule (.inr .sum)

def quotedSpecs : Parser CallRule (List Spec) :=
  .map3 (.take quote) specs (.take quote) fun _ specs _ => specs

def quotedText : Parser CallRule Unit :=
  .map3 (.take quote) (.many (.take notQuote)) (.take quote) fun _ _ _ => ()

def argument : Spec → Parser CallRule Unit
  | .str => .map2 (.take comma) quotedText fun _ _ => ()
  | .num => .map2 (.take comma) (.map (fun _ => ()) sum) fun _ _ => ()

/-- One argument for each spec, in order. -/
def arguments (specs : List Spec) : Parser CallRule Unit :=
  specs.foldl (fun earlier spec => .map2 earlier (argument spec) fun _ _ => ()) (.ret ())

def call : Parser CallRule Unit :=
  .map4 (.string "printf") (.take opening) (.bind quotedSpecs arguments) (.take closing) fun _ _ _ _ => ()

end Backtrack.Format
