import Chip8.KeySource
import Chip8.Keymap

/-!
The keyboard of a window. Events wait in a queue until a poll takes all of them, in order. Closing
the window or releasing the escape key asks to quit; the events behind are handled all the same.
-/

namespace Chip8

namespace Keyboard

inductive Event where
  | press (code : Int)
  | release (code : Int)
  | quit
  /-- An event that means nothing to the keys. -/
  | other
  deriving DecidableEq, Repr

end Keyboard

structure Keyboard where
  keymap : Keymap
  states : KeyStates := .released
  /-- Events that wait, oldest first. -/
  queue : List Keyboard.Event := []
  deriving DecidableEq, Repr

namespace Keyboard

/-- The code of the escape key. -/
def escape : Int := 27

def post (keyboard : Keyboard) (event : Event) : Keyboard :=
  { keyboard with queue := keyboard.queue ++ [event] }

/-- Sets the key of a code, if the keymap has one. -/
def setKey (keymap : Keymap) (states : KeyStates) (code : Int) (down : Bool) : KeyStates :=
  match keymap.keyOf? code with
  | some key => states.put key down
  | none => states

/-- What one event does to the keys, and whether it asks to quit. A release of the escape key
never reaches the keymap. -/
def handle (keymap : Keymap) (states : KeyStates) : Event → Bool × KeyStates
  | .press code => (false, setKey keymap states code true)
  | .release code =>
      if code = escape then (true, states) else (false, setKey keymap states code false)
  | .quit => (true, states)
  | .other => (false, states)

/-- Handles events in order. The answer tells whether any of them asks to quit. -/
def handleAll (keymap : Keymap) (states : KeyStates) (events : List Event) : Bool × KeyStates :=
  events.foldl
    (fun (quit, states) event =>
      let (quits, states) := handle keymap states event
      (quit || quits, states))
    (false, states)

/-- Takes all events that wait. -/
def poll (keyboard : Keyboard) : Bool × Keyboard :=
  let (quit, states) := handleAll keyboard.keymap keyboard.states keyboard.queue
  (quit, { keyboard with states, queue := [] })

instance : KeySource Keyboard where
  states := Keyboard.states
  poll := poll

end Keyboard

end Chip8
