import Backtrack.Arithmetic.Number
import Backtrack.Grammar

/-! Arithmetic expressions, evaluated while they are parsed.

    sum         := product sumTail | product
    sumTail     := ('+' | '-') product sumTail | ('+' | '-') product
    product     := factor productTail | factor
    productTail := ('*' | '/') factor productTail | ('*' | '/') factor
    factor      := number | '(' sum ')' | '-' factor

A tail is the chain of operators and operands that still waits for its left
operand. So operators of one level group to the left, and no rule begins with a
call of itself. -/

namespace Backtrack.Arithmetic

inductive Rule (N : Type) : Type → Type where
  | sum : Rule N N
  | sumTail : Rule N (Chain N)
  | product : Rule N N
  | productTail : Rule N (Chain N)
  | factor : Rule N N

def plusSign : CharClass := .oneOf ['+']
def minusSign : CharClass := .oneOf ['-']
def timesSign : CharClass := .oneOf ['*']
def overSign : CharClass := .oneOf ['/']
def opening : CharClass := .oneOf ['(']
def closing : CharClass := .oneOf [')']

variable {N : Type}

def operator (sign : CharClass) (operator : Operator) : Parser (Rule N) Operator :=
  .map (fun _ => operator) (.take sign)

def additive : Parser (Rule N) Operator := .alt (operator plusSign .add) (operator minusSign .sub)
def multiplicative : Parser (Rule N) Operator := .alt (operator timesSign .mul) (operator overSign .div)

/-- An operand and the chain after it, or the operand alone. -/
def chained [Arithmetic N] (operand : Rule N N) (tail : Rule N (Chain N)) : Parser (Rule N) N :=
  .alt (.map2 (.rule operand) (.rule tail) Chain.applyTo) (.rule operand)

/-- One link of a chain or more. -/
def links (sign : Parser (Rule N) Operator) (operand : Rule N N) (tail : Rule N (Chain N)) :
    Parser (Rule N) (Chain N) :=
  .alt (.map3 sign (.rule operand) (.rule tail) fun operator right rest => (operator, right) :: rest)
    (.map2 sign (.rule operand) fun operator right => [(operator, right)])

def body [Arithmetic N] : ∀ {α : Type}, Rule N α → Parser (Rule N) α
  | _, .sum => chained .product .sumTail
  | _, .sumTail => links additive .product .sumTail
  | _, .product => chained .factor .productTail
  | _, .productTail => links multiplicative .factor .productTail
  | _, .factor =>
    .choice number
      [.map3 (.take opening) (.rule .sum) (.take closing) fun _ value _ => value,
       .map2 (.take minusSign) (.rule .factor) fun _ value => -value]

def grammar (N : Type) [Arithmetic N] : Grammar (Rule N) := ⟨body, 5⟩

end Backtrack.Arithmetic
