import Chip8.Text.Integer
import Chip8.Text.Quoted

/-!
Clock speeds as a user writes them: whole numbers of operations per second, above zero.
-/

namespace Chip8.ClockSpeed

inductive Fault where
  | notWhole (text : String)
  | notPositive
  deriving DecidableEq, Repr

def Fault.message : Fault → String
  | .notWhole text => "clock speed must be a whole number, not " ++ Text.quoted text
  | .notPositive => "clock speed must be greater than zero"

/-- Reads a clock speed, of any size. -/
def read (text : String) : Except Fault Int :=
  match Text.readInt? text with
  | none => .error (.notWhole text)
  | some speed => if speed ≤ 0 then .error .notPositive else .ok speed

end Chip8.ClockSpeed
