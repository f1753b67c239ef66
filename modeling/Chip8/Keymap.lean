import Chip8.Text.Integer

/-!
Keymaps: the code of a host key for each of the sixteen keys, all different. As text the codes
stand in the order of the keys, with commas between.
-/

namespace Chip8

structure Keymap where
  /-- The codes, that of key 0 first. -/
  codes : Vector Int 16
  deriving DecidableEq, Repr

namespace Keymap

inductive Fault where
  | wrongCount
  | notInteger
  | duplicate
  deriving DecidableEq, Repr

def Fault.message : Fault → String
  | .wrongCount =>
      "Incorrect number of keys defined -- 16 required.  Use commas to split numbers"
  | .notInteger => "Defined keys are not all integer values"
  | .duplicate => "Duplicate keys defined"

/-- The key that a code stands for. -/
def keyOf? (keymap : Keymap) (code : Int) : Option (Fin 16) :=
  (List.finRange 16).find? fun key => keymap.codes.get key = code

/-- The codes with their keys, in the order of the keys. -/
def entries (keymap : Keymap) : List (Int × Fin 16) :=
  (List.finRange 16).map fun key => (keymap.codes.get key, key)

/-- Reads entries one after the other: each must be an integer and differ from those before. -/
def readCodes (seen : List Int) :
    (entries : List String) → Except Fault { codes : List Int // codes.length = entries.length }
  | [] => .ok ⟨[], rfl⟩
  | entry :: rest =>
      match Text.readInt? entry with
      | none => .error .notInteger
      | some code =>
          if code ∈ seen then .error .duplicate else
          match readCodes (code :: seen) rest with
          | .error fault => .error fault
          | .ok ⟨codes, count⟩ => .ok ⟨code :: codes, by simp [count]⟩

/-- Reads a keymap. The number of entries is checked before any of them. -/
def read (text : String) : Except Fault Keymap :=
  let entries := text.splitOn ","
  if enough : entries.length = 16 then
    match readCodes [] entries with
    | .error fault => .error fault
    | .ok ⟨codes, count⟩ => .ok ⟨⟨codes.toArray, by simp [count, enough]⟩⟩
  else
    .error .wrongCount

/-- The keymap that is used where no other is given. The codes are those of the letters and
digits in the block of keys from 1 to V. -/
def standard : String := "120,49,50,51,113,119,101,97,115,100,122,99,52,114,102,118"

end Keymap

end Chip8
