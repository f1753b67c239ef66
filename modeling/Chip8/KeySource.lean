import Chip8.KeyStates

/-!
Where a host reads its keys from: the states of the sixteen keys, brought up to date by polling,
which also tells whether to quit. Beside the keyboard of a window there are keys that are set by
hand.
-/

namespace Chip8

class KeySource (σ : Type) where
  states : σ → KeyStates
  /-- Takes what has happened since the last poll, and tells whether to quit. -/
  poll : σ → Bool × σ

/-- Keys that are set by hand. Polls ask to quit from a given one on, or never. -/
structure HandKeys where
  states : KeyStates := .released
  /-- Polls left before the first that asks to quit. -/
  patience : Option Nat := none
  deriving DecidableEq, Repr

namespace HandKeys

/-- Sets the key of an index, if there is one. -/
def set? (keys : HandKeys) (index : Int) (down : Bool) : Option HandKeys :=
  (KeyStates.index? index).map fun key => { keys with states := keys.states.put key down }

def poll (keys : HandKeys) : Bool × HandKeys :=
  match keys.patience with
  | none => (false, keys)
  | some 0 => (true, keys)
  | some (left + 1) => (false, { keys with patience := some left })

instance : KeySource HandKeys where
  states := HandKeys.states
  poll := poll

end HandKeys

end Chip8
