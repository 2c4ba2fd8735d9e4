import Backtrack.Decimal.Shortest

/-! How a double is written: positionally in the range of everyday numbers, with
an exponent outside of it. A written double always shows that it is not an
integer. -/

namespace Backtrack.Decimal

/-- A decimal without trailing zeros: its digits, the first and the others, and
the power of ten of the first one. -/
structure Scientific where
  first : Char
  others : List Char
  exponent : Int
  deriving DecidableEq, Repr

def dropTrailingZeros (digits : List Char) : List Char :=
  (digits.reverse.dropWhile (· = '0')).reverse

def Scaled.scientific (decimal : Scaled) : Scientific :=
  let digits := Nat.toDigits 10 decimal.digits
  { first := digits.headD '0'
    others := dropTrailingZeros digits.tail
    exponent := decimal.exponent + digits.tail.length }

/-- Positional notation is for numbers from `10 ^ -4` and below `10 ^ 16`. -/
def isPositional (exponent : Int) : Bool := -4 ≤ exponent && exponent < 16

/-- The whole part and the fraction. Neither is left out. -/
def Scientific.positional (decimal : Scientific) : List Char :=
  let digits := decimal.first :: decimal.others
  if decimal.exponent < 0 then
    ['0', '.'] ++ List.replicate (-decimal.exponent - 1).toNat '0' ++ digits
  else
    let places := decimal.exponent.toNat + 1
    let whole := digits.take places ++ List.replicate (places - digits.length) '0'
    let fraction := digits.drop places
    whole ++ '.' :: if fraction.isEmpty then ['0'] else fraction

/-- One digit, the others as a fraction if there are any, and the exponent. -/
def Scientific.exponential (decimal : Scientific) : List Char :=
  let fraction := if decimal.others.isEmpty then [] else '.' :: decimal.others
  decimal.first :: fraction ++ 'e' :: (toString decimal.exponent).toList

/-- A positive finite number. -/
def magnitudeText (value : Binary) : List Char :=
  let decimal := (shortest value).scientific
  if isPositional decimal.exponent then decimal.positional else decimal.exponential

/-- From the bits of a double. Zero has a sign, a number that is not a number has
none. -/
def ofBits (bits : Nat) : List Char :=
  let negative := bits / Nat.pow 2 63 % 2 = 1
  let exponentField := bits / Nat.pow 2 52 % Nat.pow 2 11
  let fraction := bits % Nat.pow 2 52
  if exponentField = 2047 && fraction ≠ 0 then "NaN".toList
  else
    let unsigned :=
      if exponentField = 2047 then "inf".toList
      else if exponentField = 0 && fraction = 0 then "0.0".toList
      else magnitudeText (Binary.ofFields exponentField fraction)
    if negative then '-' :: unsigned else unsigned

def ofFloat (value : Float) : String :=
  String.ofList (ofBits value.toBits.toNat)

end Backtrack.Decimal
