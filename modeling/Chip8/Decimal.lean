/-!
Decimals: a number of digits times a power of ten. They are written with a point and at least one
digit on either side of it. Very small and very large ones have their point behind the first
digit, if it has others behind it, and an exponent with a sign and at least two digits.
-/

namespace Chip8

structure Decimal where
  digits : Nat
  exponent : Int
  deriving DecidableEq, Repr

namespace Decimal

def digitList (decimal : Decimal) : List Char := Nat.toDigits 10 decimal.digits

/-- The power of ten of the first digit. -/
def leading (decimal : Decimal) : Int := decimal.digitList.length - 1 + decimal.exponent

/-- The decimal is neither so small nor so large that it needs an exponent. -/
def isPlain (decimal : Decimal) : Prop := -4 ≤ decimal.leading ∧ decimal.leading < 16

instance (decimal : Decimal) : Decidable decimal.isPlain := inferInstanceAs (Decidable (_ ∧ _))

/-- The digits with a point. -/
def plain (decimal : Decimal) : List Char :=
  let digits := decimal.digitList
  if 0 ≤ decimal.exponent then
    digits ++ List.replicate decimal.exponent.toNat '0' ++ ['.', '0']
  else if 0 ≤ decimal.leading then
    let whole := decimal.leading.toNat + 1
    digits.take whole ++ '.' :: digits.drop whole
  else
    '0' :: '.' :: List.replicate (-decimal.leading - 1).toNat '0' ++ digits

/-- The digits with an exponent. -/
def scientific (decimal : Decimal) : List Char :=
  let mantissa := match decimal.digitList with
    | first :: second :: rest => first :: '.' :: second :: rest
    | digits => digits
  let sign := if decimal.leading < 0 then '-' else '+'
  let exponent := Nat.toDigits 10 decimal.leading.natAbs
  mantissa ++ 'e' :: sign :: List.replicate (2 - exponent.length) '0' ++ exponent

def text (decimal : Decimal) : String :=
  String.ofList (if decimal.isPlain then decimal.plain else decimal.scientific)

end Decimal

end Chip8
