import Chip8.Decimal.Shortest

/-!
Numbers as they are entered: whole numbers of any size, and doubles.
-/

namespace Chip8

inductive Number where
  | whole (number : Int)
  | real (number : Float)
  deriving DecidableEq, Repr

namespace Number

/-- Zero of either sign. -/
def isZero : Number → Bool
  | .whole number => number == 0
  | .real number => number == 0.0

/-- The number lies between two whole numbers or is one of them. What is not a number does not. -/
def isWithin (low high : Nat) : Number → Bool
  | .whole number => low ≤ number && number ≤ high
  | .real number => Float.ofNat low ≤ number && number ≤ Float.ofNat high

/-- A double with as few digits as tell it from all others. -/
def realText (number : Float) : String :=
  if number.isNaN then
    "nan"
  else
    let sign := if number.toBits < 0x8000000000000000 then "" else "-"
    if number.isInf then
      sign ++ "inf"
    else
      let decimal := if number == 0.0 then none else Decimal.shortest? number.toBits
      sign ++ (decimal.getD ⟨0, 0⟩).text

def text : Number → String
  | .whole number => toString number
  | .real number => realText number

end Number

end Chip8
