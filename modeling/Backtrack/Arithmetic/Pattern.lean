import Mathlib.Computability.RegularExpressions

/-! The texts of decimal numerals as regular expressions. They say nothing about order of
choice, nor about how much of a longer text is taken. -/

namespace Backtrack.Arithmetic

open RegularExpression (char)

/-- One of the characters. -/
def anyOf (characters : List Char) : RegularExpression Char :=
  characters.foldr (fun c others => char c + others) 0

def nonzeroPattern : RegularExpression Char := anyOf ['1', '2', '3', '4', '5', '6', '7', '8', '9']

def digitPattern : RegularExpression Char := char '0' + nonzeroPattern

/-- `0|[1-9][0-9]*` -/
def wholePattern : RegularExpression Char := char '0' + nonzeroPattern * digitPattern.star

/-- `\.[0-9]+` -/
def fractionPattern : RegularExpression Char := char '.' * (digitPattern * digitPattern.star)

/-- `(0|[1-9][0-9]*)(\.[0-9]+)?` -/
def numeralPattern : RegularExpression Char := wholePattern * (fractionPattern + 1)

end Backtrack.Arithmetic
