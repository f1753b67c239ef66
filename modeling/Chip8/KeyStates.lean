/-!
The states of the sixteen keys, each down or up.
-/

namespace Chip8

/-- One state a key, key 0 first. -/
abbrev KeyStates := Vector Bool 16

namespace KeyStates

def released : KeyStates := Vector.replicate 16 false

/-- Writes the state of a key. -/
def put (states : KeyStates) (key : Fin 16) (down : Bool) : KeyStates := states.set key down

/-- The write of a key is what is read there, and no other key changes. -/
theorem get_put (states : KeyStates) (key other : Fin 16) (down : Bool) :
    (states.put key down).get other = if other = key then down else states.get other := by
  show (states.set key down)[other.val] = if other = key then down else states[other.val]
  rw [Vector.getElem_set]
  by_cases same : key.val = other.val
  · rw [if_pos same, if_pos (Fin.ext same.symm)]
  · rw [if_neg same, if_neg (mt (congrArg Fin.val) (Ne.symm same))]

/-- The key of a number. -/
def key? (number : Int) : Option (Fin 16) :=
  if h : 0 ≤ number ∧ number < 16 then some ⟨number.toNat, by omega⟩ else none

theorem key?_eq_some_iff {number : Int} {key : Fin 16} :
    key? number = some key ↔ number = key.val := by
  unfold key?
  split
  · rw [Option.some.injEq, Fin.ext_iff]
    show number.toNat = key.val ↔ number = key.val
    omega
  · exact iff_of_false nofun (by omega)

theorem key?_eq_none_iff {number : Int} : key? number = none ↔ ¬ (0 ≤ number ∧ number < 16) := by
  unfold key?
  split
  · exact iff_of_false nofun (by omega)
  · exact iff_of_true rfl (by omega)

/-- The key of an index. Negative indices count back from the last key. -/
def index? (index : Int) : Option (Fin 16) :=
  if index < 0 then key? (index + 16) else key? index

def isDown? (states : KeyStates) (index : Int) : Option Bool := (index? index).map states.get

end KeyStates

end Chip8
