import Chip8.Keypad

/-!
What can be asked of a keypad, as data.
-/

namespace Chip8.Keypad

inductive Request where
  | setDown (key : Int) (down : Bool)
  | isDown (key : Int)
  | firstDown
  | setAll (states : List Bool)
  | releaseAll
  deriving DecidableEq, Repr

inductive Answer where
  | done
  | truth (down : Bool)
  | key (key : Option (Fin 16))
  deriving DecidableEq, Repr

abbrev Reply := Except Fault Answer

/-- The outcome of a request that sets keys: the keypad that is left, and the fault if any. -/
def settle : Keypad × Option Fault → Keypad × Reply
  | (left, none) => (left, .ok .done)
  | (left, some fault) => (left, .error fault)

def apply (keypad : Keypad) : Request → Keypad × Reply
  | .setDown key down => settle (keypad.setDown key down)
  | .isDown key => (keypad, (keypad.isDown key).map .truth)
  | .firstDown => (keypad, .ok (.key keypad.firstDown))
  | .setAll states => settle (keypad.setAll states)
  | .releaseAll => (released, .ok .done)

end Chip8.Keypad
