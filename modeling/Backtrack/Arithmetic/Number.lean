import Backtrack.Arithmetic.Basic
import Backtrack.Parser.Derived

/-! Decimal numerals. A whole part has no superfluous zero in front. A point
belongs to the numeral only if a digit follows it. -/

namespace Backtrack.Arithmetic

def zero : CharClass := .oneOf ['0']
def nonzero : CharClass := .oneOf ['1', '2', '3', '4', '5', '6', '7', '8', '9']
def point : CharClass := .oneOf ['.']

def digitValue (c : Char) : Nat := c.toNat - '0'.toNat

variable {Rule : Type → Type} {N : Type}

def zeroDigit : Parser Rule Nat := .map (fun _ => 0) (.take zero)
def nonzeroDigit : Parser Rule Nat := .map digitValue (.take nonzero)
def digit : Parser Rule Nat := .alt zeroDigit nonzeroDigit

variable [Arithmetic N]

/-- The digits of a whole part count from the first: each one multiplies what is
before it by ten. -/
def wholeValue (first : Nat) (others : List Nat) : N :=
  others.foldl (fun value digit => value * ofNat 10 + ofNat digit) (ofNat first)

/-- The digits of a fraction count from the last: each one divides what is after
it by ten. -/
def fractionValue (digits : List Nat) : N :=
  digits.foldr (fun digit value => (value + ofNat digit) / ofNat 10) (ofNat 0)

def integer : Parser Rule N :=
  .alt (.map2 nonzeroDigit (.many digit) wholeValue) (.map ofNat zeroDigit)

def fraction : Parser Rule N :=
  .map2 (.take point) (.some digit) fun _ digits => fractionValue digits

def number : Parser Rule N :=
  .map2 integer (.optional fraction (ofNat 0)) fun whole fraction => whole + fraction

end Backtrack.Arithmetic
