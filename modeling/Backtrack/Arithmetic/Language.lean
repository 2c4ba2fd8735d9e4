import Backtrack.Arithmetic.Numeral

/-! The texts of arithmetic expressions as a context-free language. The language
says nothing about order of choice or about values. -/

namespace Backtrack.Arithmetic

inductive Category where
  | sum
  | sumTail
  | product
  | productTail
  | factor
  deriving DecidableEq, Repr

/-- The signs at the head of a tail. -/
def additiveSigns : List Char := ['+', '-']
def multiplicativeSigns : List Char := ['*', '/']

inductive Derives : Category → Text → Prop where
  | sumChain {operand tail} : Derives .product operand → Derives .sumTail tail → Derives .sum (operand ++ tail)
  | sumAlone {operand} : Derives .product operand → Derives .sum operand
  | sumLink {sign operand tail} : sign ∈ additiveSigns → Derives .product operand → Derives .sumTail tail →
      Derives .sumTail (sign :: operand ++ tail)
  | sumLast {sign operand} : sign ∈ additiveSigns → Derives .product operand → Derives .sumTail (sign :: operand)
  | productChain {operand tail} : Derives .factor operand → Derives .productTail tail →
      Derives .product (operand ++ tail)
  | productAlone {operand} : Derives .factor operand → Derives .product operand
  | productLink {sign operand tail} : sign ∈ multiplicativeSigns → Derives .factor operand →
      Derives .productTail tail → Derives .productTail (sign :: operand ++ tail)
  | productLast {sign operand} : sign ∈ multiplicativeSigns → Derives .factor operand →
      Derives .productTail (sign :: operand)
  | numeral (numeral : Numeral) : Derives .factor numeral.text
  | group {inner} : Derives .sum inner → Derives .factor ('(' :: inner ++ [')'])
  | negation {operand} : Derives .factor operand → Derives .factor ('-' :: operand)

end Backtrack.Arithmetic
