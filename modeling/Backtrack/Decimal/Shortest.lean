/-! The shortest decimal that reads back as a binary floating-point number. All
arithmetic is exact, on natural numbers. -/

namespace Backtrack.Decimal

/-- A positive number `mantissa * 2 ^ exponent` as a double holds it. Below a
mantissa that is the first of its binade the next number is half as far away as
above it. -/
structure Binary where
  mantissa : Nat
  exponent : Int
  narrowBelow : Bool
  deriving DecidableEq, Repr

namespace Binary

/-- From the two lower fields of a finite double. With exponent field zero the
mantissa has no leading bit, and the spacing is that of field one. -/
def ofFields (exponentField fraction : Nat) : Binary :=
  if exponentField = 0 then ⟨fraction, -1074, false⟩
  else ⟨Nat.pow 2 52 + fraction, exponentField - 1075, fraction = 0 && 1 < exponentField⟩

end Binary

/-- The number `digits * 10 ^ exponent`. -/
structure Scaled where
  digits : Nat
  exponent : Int
  deriving DecidableEq, Repr

/-- A quotient of natural numbers equal to `factor * base ^ exponent`. -/
def quotient (factor base : Nat) (exponent : Int) : Nat × Nat :=
  if 0 ≤ exponent then (factor * Nat.pow base exponent.toNat, 1) else (factor, Nat.pow base (-exponent).toNat)

def le (left right : Nat × Nat) : Bool := left.1 * right.2 ≤ right.1 * left.2

def lt (left right : Nat × Nat) : Bool := left.1 * right.2 < right.1 * left.2

/-- Whether the decimal lies among the reals that round to the binary number:
those up to half way to its neighbours, both ends included when the mantissa is
even. -/
def readsBack (value : Binary) (decimal : Scaled) : Bool :=
  let point := quotient decimal.digits 10 decimal.exponent
  let lower := quotient (4 * value.mantissa - if value.narrowBelow then 1 else 2) 2 (value.exponent - 2)
  let upper := quotient (4 * value.mantissa + 2) 2 (value.exponent - 2)
  if value.mantissa % 2 = 0 then le lower point && le point upper else lt lower point && lt point upper

/-- How many decimal digits a number has, none for zero. -/
def digitCount (n : Nat) : Nat := if n = 0 then 0 else (Nat.toDigits 10 n).length

/-- The power of ten just above a positive quotient: the least `k` for which the
quotient is below `10 ^ k`. -/
def magnitude (value : Nat × Nat) : Int :=
  if value.2 ≤ value.1 then digitCount (value.1 / value.2)
  else 1 - digitCount ((value.2 - 1) / value.1)

/-- The largest multiple of `10 ^ exponent` that is not above the quotient. -/
def floorAt (value : Nat × Nat) (exponent : Int) : Nat :=
  if 0 ≤ exponent then value.1 / (value.2 * Nat.pow 10 exponent.toNat)
  else value.1 * Nat.pow 10 (-exponent).toNat / value.2

/-- Of a decimal below and one above the quotient, on one grid, the nearer one.
Half way it is the upper one. -/
def nearer (value : Nat × Nat) (below above : Scaled) : Scaled :=
  let middle := quotient (below.digits + above.digits) 10 below.exponent
  if lt (2 * value.1, value.2) middle then below else above

/-- The best decimal of so many digits that reads back, if there is one. If any
multiple of a power of ten reads back, so does one of the two around the value. -/
def withDigits (value : Binary) (count : Nat) : Option Scaled :=
  let exact := quotient value.mantissa 2 value.exponent
  let exponent := magnitude exact - count
  let below : Scaled := ⟨floorAt exact exponent, exponent⟩
  let above : Scaled := ⟨below.digits + 1, exponent⟩
  match readsBack value below, readsBack value above with
  | true, true => some (nearer exact below above)
  | true, false => some below
  | false, true => some above
  | false, false => none

/-- The number in full. -/
def expansion (value : Binary) : Scaled :=
  if 0 ≤ value.exponent then ⟨value.mantissa * Nat.pow 2 value.exponent.toNat, 0⟩
  else ⟨value.mantissa * Nat.pow 5 (-value.exponent).toNat, value.exponent⟩

/-- The fewest digits that read back, and of those the nearest. Seventeen are
always enough for a double. -/
def shortest (value : Binary) : Scaled :=
  ((List.range' 1 17).findSome? (withDigits value)).getD (expansion value)

end Backtrack.Decimal
