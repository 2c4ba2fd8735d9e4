import Backtrack.Arithmetic.Number

/-! Decimal numerals as data: how they are written, what they are worth in a given
arithmetic, and the number they denote. -/

namespace Backtrack.Arithmetic

abbrev Digit := Fin 10

def Digit.char (digit : Digit) : Char := Char.ofNat ('0'.toNat + digit)

/-- A whole part: a zero alone, or digits of which the first is not zero. -/
inductive Whole where
  | zero
  | leading (first : Digit) (nonzero : first ≠ 0) (others : List Digit)
  deriving DecidableEq, Repr

def Whole.digits : Whole → List Digit
  | zero => [0]
  | leading first _ others => first :: others

/-- A numeral has a point only where its fraction has digits. -/
structure Numeral where
  whole : Whole
  fraction : List Digit
  deriving DecidableEq, Repr

namespace Numeral

def fractionText (digits : List Digit) : Text :=
  if digits.isEmpty then [] else '.' :: digits.map Digit.char

def text (numeral : Numeral) : Text :=
  numeral.whole.digits.map Digit.char ++ fractionText numeral.fraction

/-- The value that the operations of an arithmetic make of the digits. -/
def value [Arithmetic N] (numeral : Numeral) : N :=
  (match numeral.whole with
    | .zero => ofNat 0
    | .leading first _ others => wholeValue first (others.map Fin.val)) +
  fractionValue (numeral.fraction.map Fin.val)

/-- Each digit counts by its place, the last one as a unit. -/
def wholeDenotation : List Digit → Rat
  | [] => 0
  | digit :: others => digit.val * 10 ^ others.length + wholeDenotation others

/-- Each digit counts by its place after the point. -/
def fractionDenotation (place : Nat) : List Digit → Rat
  | [] => 0
  | digit :: others => digit.val / 10 ^ place + fractionDenotation (place + 1) others

/-- The rational number that the digits stand for. -/
def denotation (numeral : Numeral) : Rat :=
  wholeDenotation numeral.whole.digits + fractionDenotation 1 numeral.fraction

/-! ## Scanning -/

def digit? (c : Char) : Option Digit :=
  if bounds : '0'.toNat ≤ c.toNat ∧ c.toNat ≤ '9'.toNat then some ⟨c.toNat - '0'.toNat, by
    have zero : '0'.toNat = 48 := rfl
    have nine : '9'.toNat = 57 := rfl
    omega⟩
  else none

/-- The digits at the start of a text, and what follows them. -/
def scanDigits : Text → List Digit × Text
  | [] => ([], [])
  | c :: rest =>
    match digit? c with
    | none => ([], c :: rest)
    | some digit => (digit :: (scanDigits rest).1, (scanDigits rest).2)

/-- A fraction needs a digit: a point without one is left where it is. -/
def scanFraction : Text → List Digit × Text
  | '.' :: rest =>
    match scanDigits rest with
    | ([], _) => ([], '.' :: rest)
    | scanned => scanned
  | text => ([], text)

def scanWhole? : Text → Option (Whole × Text)
  | [] => none
  | c :: rest =>
    match digit? c with
    | none => none
    | some first =>
      if nonzero : first = 0 then some (.zero, rest)
      else some (.leading first nonzero (scanDigits rest).1, (scanDigits rest).2)

/-- The numeral at the start of a text. -/
def scan? (text : Text) : Option (Numeral × Text) :=
  (scanWhole? text).map fun (whole, rest) => (⟨whole, (scanFraction rest).1⟩, (scanFraction rest).2)

end Numeral
end Backtrack.Arithmetic
