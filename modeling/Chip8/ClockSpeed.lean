import Chip8.Number
import Chip8.Time

/-!
Clock speeds: cycles of the processor in a second.
-/

namespace Chip8

abbrev ClockSpeed := Number

namespace ClockSpeed

/-- A double that is not a number is not refused. -/
def isPositive : ClockSpeed → Bool
  | .whole perSecond => 0 < perSecond
  | .real perSecond => !(perSecond ≤ 0.0)

/-- Seconds from one cycle to the next. A whole number beyond all doubles has none. -/
def interval? : ClockSpeed → Option Float
  | .whole perSecond => (Time.nearest? perSecond).map (1.0 / ·)
  | .real perSecond => some (1.0 / perSecond)

end ClockSpeed

end Chip8
