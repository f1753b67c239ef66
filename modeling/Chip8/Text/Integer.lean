import Chip8.Text.Blank
import Chip8.Text.Digit

/-!
Integers as a user writes them: between spaces, an optional sign and decimal digits of any
script, with single underscores between digits. Leading zeros are allowed, and there is a limit
to the number of digits.
-/

namespace Chip8.Text

/-- The longest number that is read. Underscores do not count, leading zeros do. -/
def maxDigits : Nat := 4300

/-- The values of digits, between which there may be single underscores. -/
def readDigits? : List Char → Option (List Nat)
  | [] => none
  | [c] => (digitValue? c).map ([·])
  | c :: '_' :: rest => return (← digitValue? c) :: (← readDigits? rest)
  | c :: rest => return (← digitValue? c) :: (← readDigits? rest)

/-- The number with these decimal digits. -/
def ofDigits (digits : List Nat) : Nat := digits.foldl (fun value digit => 10 * value + digit) 0

def readNat? (text : List Char) : Option Nat := do
  let digits ← readDigits? text
  if digits.length ≤ maxDigits then some (ofDigits digits) else none

/-- A number behind its sign. -/
def readSigned? : List Char → Option Int
  | '-' :: rest => (readNat? rest).map fun value => -(value : Int)
  | '+' :: rest => (readNat? rest).map Int.ofNat
  | text => (readNat? text).map Int.ofNat

def readInt? (text : String) : Option Int := readSigned? (trim isSpace text.toList)

end Chip8.Text
