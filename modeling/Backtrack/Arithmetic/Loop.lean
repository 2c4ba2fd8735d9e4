import Backtrack.Arithmetic.Numeral

/-! Evaluation in one pass, without alternatives that are tried and given up: a
chain of operators is a loop that keeps the value so far. -/

namespace Backtrack.Arithmetic.Loop

abbrev Reader (N : Type) := Text → Option (N × Text)

def additive? : Char → Option Operator
  | '+' => some .add
  | '-' => some .sub
  | _ => none

def multiplicative? : Char → Option Operator
  | '*' => some .mul
  | '/' => some .div
  | _ => none

variable {N : Type} [Arithmetic N]

/-- Goes on while an operator and an operand follow. The loop ends in front of an
operator without an operand. -/
def loop (operator? : Char → Option Operator) (operand : Reader N) : Nat → N → Text → N × Text
  | rounds + 1, value, sign :: rest =>
    match operator? sign, operand rest with
    | some operator, some (right, tail) => loop operator? operand rounds (operator.apply value right) tail
    | _, _ => (value, sign :: rest)
  | _, value, rest => (value, rest)

/-- One operand, and all that follows it on its level. -/
def level (operator? : Char → Option Operator) (operand : Reader N) : Reader N := fun input =>
  (operand input).map fun (value, rest) => loop operator? operand rest.length value rest

def productOf (factor : Reader N) : Reader N := level multiplicative? factor

def sumOf (factor : Reader N) : Reader N := level additive? (productOf factor)

/-- A numeral, a sum in parentheses or a negated factor, nested at most so deep. -/
def factorWithin : Nat → Reader N
  | 0 => fun _ => none
  | depth + 1 => fun input =>
    match Numeral.scan? input with
    | some (numeral, rest) => some (numeral.value, rest)
    | none =>
      match input with
      | '(' :: rest =>
        match sumOf (factorWithin depth) rest with
        | some (value, ')' :: tail) => some (value, tail)
        | _ => none
      | '-' :: rest => (factorWithin depth rest).map fun (value, tail) => (-value, tail)
      | _ => none

/-- No text nests deeper than it is long. -/
def factor : Reader N := fun input => factorWithin (input.length + 1) input
def product : Reader N := fun input => productOf (factorWithin (input.length + 1)) input
def sum : Reader N := fun input => sumOf (factorWithin (input.length + 1)) input

end Backtrack.Arithmetic.Loop
