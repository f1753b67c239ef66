import Chip8.KeyStates
import Chip8.Text.Hex

/-!
The sixteen keys 0 to F, each down or up. The latest write of a key counts. A write answers the
keypad that it leaves, also when it is refused: for a key that does not exist, or a wrong number of
keys.
-/

namespace Chip8

structure Keypad where
  keys : KeyStates
  deriving DecidableEq, Repr

namespace Keypad

def keyCount : Nat := 16

inductive Fault where
  | noSuchKey (key : Int)
  | wrongCount (given : Nat)
  deriving DecidableEq, Repr

def Fault.message : Fault → String
  | .noSuchKey key => "Key 0x" ++ Text.paddedHex 0 key ++ " is out of range"
  | .wrongCount _ => s!"Exactly {keyCount} key states are required"

/-- All keys up. -/
def released : Keypad := ⟨.released⟩

/-- The key of that number. -/
def key? (key : Int) : Except Fault (Fin 16) :=
  match KeyStates.key? key with
  | some key => .ok key
  | none => .error (.noSuchKey key)

def setDown (keypad : Keypad) (key : Int) (down : Bool) : Keypad × Option Fault :=
  match key? key with
  | .error fault => (keypad, some fault)
  | .ok key => (⟨keypad.keys.put key down⟩, none)

def isDown (keypad : Keypad) (key : Int) : Except Fault Bool := do
  let key ← key? key
  return keypad.keys.get key

/-- The lowest key that is down. -/
def firstDown (keypad : Keypad) : Option (Fin 16) :=
  (List.finRange 16).find? keypad.keys.get

def setAll (keypad : Keypad) (states : List Bool) : Keypad × Option Fault :=
  if h : states.length = 16 then (⟨⟨states.toArray, by simpa using h⟩⟩, none)
  else (keypad, some (.wrongCount states.length))

/-! ### Keys that are down -/

theorem key?_val (key : Fin 16) : key? key.val = .ok key := by
  unfold key?
  rw [KeyStates.key?_eq_some_iff.mpr rfl]

/-- A key that exists can be asked for. -/
theorem isDown_val (keypad : Keypad) (key : Fin 16) :
    keypad.isDown key.val = .ok (keypad.keys.get key) := by
  rw [isDown, key?_val]
  rfl

/-- No key is down. -/
def Idle (keypad : Keypad) : Prop := ∀ key, keypad.keys.get key = false

theorem firstDown_eq_none_iff {keypad : Keypad} : keypad.firstDown = none ↔ keypad.Idle := by
  simp [firstDown, Idle, List.find?_eq_none]

instance Idle.decidable (keypad : Keypad) : Decidable keypad.Idle :=
  decidable_of_iff (keypad.firstDown = none) firstDown_eq_none_iff

/-- The first key that is found is the lowest of those that are down. -/
theorem firstDown_eq_some_iff {keypad : Keypad} {key : Fin 16} :
    keypad.firstDown = some key ↔
      keypad.keys.get key = true ∧ ∀ lower < key, keypad.keys.get lower = false := by
  rw [firstDown, List.find?_eq_some_iff_getElem]
  refine and_congr_right fun _ => ?_
  constructor
  · rintro ⟨index, inside, rfl, up⟩ lower below
    rw [List.getElem_finRange] at below
    have found := up lower.val below
    rw [List.getElem_finRange] at found
    simpa using found
  · intro up
    refine ⟨key.val, by simp, by simp, ?_⟩
    intro index below
    have found := up ⟨index, by omega⟩ below
    simpa using found

end Keypad

end Chip8
