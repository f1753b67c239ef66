import Chip8.Colour
import Chip8.Text.Blank
import Chip8.Text.Hex
import Chip8.Text.Quoted

/-!
Colours as a user writes them: between blanks, six hexadecimal digits, which a single mark may
precede.
-/

namespace Chip8.Colour

/-- The text behind its mark, if it has one: a number sign, or a zero and an x. -/
def withoutMark : List Char → List Char
  | '#' :: rest => rest
  | '0' :: 'x' :: rest => rest
  | '0' :: 'X' :: rest => rest
  | text => text

/-- The byte of two digits. -/
def byte? (high low : Char) : Option UInt8 :=
  return UInt8.ofNat (16 * (← Text.hexDigitValue? high) + (← Text.hexDigitValue? low))

/-- The colour of exactly six digits. -/
def ofDigits? : List Char → Option Colour
  | [r, r', g, g', b, b'] => return ⟨← byte? r r', ← byte? g g', ← byte? b b'⟩
  | _ => none

def read? (text : String) : Option Colour :=
  ofDigits? (withoutMark (Text.trim Text.isBlank text.toList))

/-- Why a text is no colour. -/
def refusal (text : String) : String :=
  "Colours must be 6 hex digits long, optionally prefixed with '#' or '0x': " ++ Text.quoted text

end Chip8.Colour
