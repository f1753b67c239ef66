import Chip8.Text.Hex
import Chip8.Text.Printable

/-!
Text in quotes, as error messages show it. Single quotes are used unless the text holds one and
no double quote. The quote in use and the backslash are escaped by a backslash, and so is every
character that is not printable: by a letter, or by its code in hexadecimal.
-/

namespace Chip8.Text

/-- The quote that encloses a text. -/
def quoteFor (text : List Char) : Char :=
  if '\'' ∈ text ∧ '"' ∉ text then '"' else '\''

/-- The code of a character in the shortest of three widths. -/
def escapeCode (c : Char) : String :=
  let code := c.toNat
  if code ≤ 0xFF then "\\x" ++ paddedHex 2 (code : Int)
  else if code ≤ 0xFFFF then "\\u" ++ paddedHex 4 (code : Int)
  else "\\U" ++ paddedHex 8 (code : Int)

/-- One character between quotes. -/
def escape (quote c : Char) : String :=
  if c = quote ∨ c = '\\' then String.ofList ['\\', c]
  else if c = '\t' then "\\t"
  else if c = '\n' then "\\n"
  else if c = '\r' then "\\r"
  else if isPrintable c then String.singleton c
  else escapeCode c

def quoted (text : String) : String :=
  let quote := quoteFor text.toList
  String.singleton quote ++ String.join (text.toList.map (escape quote)) ++
    String.singleton quote

end Chip8.Text
