import Backtrack.Arithmetic.Numeral

/-! Arithmetic expressions as trees: their value, and their text with as few
parentheses as the grammar allows. -/

namespace Backtrack.Arithmetic

/-- How tightly an expression holds together. -/
inductive Level where
  | sum
  | product
  | factor
  deriving DecidableEq, Repr

namespace Level

def rank : Level → Nat
  | sum => 0
  | product => 1
  | factor => 2

/-- The level of a right operand: operators of one level group to the left. -/
def above : Level → Level
  | sum => product
  | product => factor
  | factor => factor

end Level

namespace Operator

def sign : Operator → Char
  | add => '+'
  | sub => '-'
  | mul => '*'
  | div => '/'

def level : Operator → Level
  | add | sub => .sum
  | mul | div => .product

end Operator

inductive Expression where
  | numeral (literal : Numeral)
  | negation (operand : Expression)
  | binary (operator : Operator) (left right : Expression)
  deriving DecidableEq, Repr

namespace Expression

/-- The value, from the operands up. -/
def value [Arithmetic N] : Expression → N
  | numeral literal => literal.value
  | negation operand => -operand.value
  | binary operator left right => operator.apply left.value right.value

/-- The text where an expression of the given level is asked for. -/
def textAt (level : Level) : Expression → Text
  | numeral literal => literal.text
  | negation operand => '-' :: operand.textAt .factor
  | binary operator left right =>
    let bare := left.textAt operator.level ++ operator.sign :: right.textAt operator.level.above
    if operator.level.rank < level.rank then '(' :: bare ++ [')'] else bare

def text (expression : Expression) : Text := expression.textAt .sum

end Expression
end Backtrack.Arithmetic
