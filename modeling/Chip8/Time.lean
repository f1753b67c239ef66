/-!
Times and intervals in seconds, as doubles. An integer becomes the nearest double, of two the
even one; one that lies beyond all doubles has none.
-/

namespace Chip8.Time

/-- The significand of 53 binary digits that comes nearest to a number which is longer by `shift`
digits. One that is rounded up may be of one digit more. -/
def significand (number shift : Nat) : Nat :=
  let cut := number / Nat.pow 2 shift
  let rest := number % Nat.pow 2 shift
  let half := Nat.pow 2 (shift - 1)
  if half < rest ∨ (rest = half ∧ cut % 2 = 1) then cut + 1 else cut

/-- The least power of two beyond all doubles. -/
def limit : Nat := Nat.pow 2 1024

/-- The double nearest to a natural number. -/
def nearestOfNat? (number : Nat) : Option Float :=
  if number < 0x20000000000000 then
    some (Float.ofNat number)
  else
    let shift := number.log2 - 52
    let rounded := significand number shift
    if rounded * Nat.pow 2 shift < limit then some ((Float.ofNat rounded).scaleB shift) else none

/-- The double nearest to an integer. -/
def nearest? (number : Int) : Option Float :=
  match number with
  | .ofNat number => nearestOfNat? number
  | .negSucc predecessor => (nearestOfNat? (predecessor + 1)).map Float.neg

def ofMicroseconds? (count : Int) : Option Float :=
  (nearest? count).map (· / 1000000.0)

/-- The time without its fraction, which is cut towards zero. -/
def wholeSeconds (time : Float) : Float :=
  if time < 0.0 then time.ceil else time.floor

/-- Ticks of the timers in a second. -/
def ticksPerSecond : Float := 60.0

/-- Refreshes of the display in a second. -/
def refreshesPerSecond : Float := 60.0

def tickInterval : Float := 1.0 / ticksPerSecond

def refreshInterval : Float := 1.0 / refreshesPerSecond

end Chip8.Time
