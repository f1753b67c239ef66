import Chip8.Proofs.Bounds
import Chip8.Proofs.Encoding

/-!
Arithmetic on registers.

The operands of an instruction may be the register that it writes, and register F, which takes the
flag. The flag is computed from the registers as they were, and wins where register F is the target.

* `Instruction.result?`, `Instruction.flag?` — the result of an instruction as an integer, and its
  flag, by the registers before it.
* `Computed` — what arithmetic leaves in the registers.
* `registers_of_arithmetic` — every word of an arithmetic instruction leaves that, in all cases of
  operands that coincide.
-/

namespace Chip8

namespace Instruction

/-- The target of an instruction that computes, and its result, which is then cut to a byte. The
second register of a shift is not read. -/
def result? (v : Nibble → Nat) : Instruction → Option (Nibble × Int)
  | .addByte x byte => some (x, v x + byte.toNat)
  | .or x y => some (x, (v x ||| v y : Nat))
  | .and x y => some (x, (v x &&& v y : Nat))
  | .xor x y => some (x, (v x ^^^ v y : Nat))
  | .add x y => some (x, v x + v y)
  | .sub x y => some (x, v x - v y)
  | .shiftRight x _ => some (x, v x / 2)
  | .subFrom x y => some (x, v y - v x)
  | .shiftLeft x _ => some (x, 2 * v x)
  | _ => none

/-- What an instruction tells in register F: a carry, that nothing was borrowed, or the bit that was
shifted out. -/
def flag? (v : Nibble → Nat) : Instruction → Option Bool
  | .add x y => some (0xFF < v x + v y)
  | .sub x y => some (v y ≤ v x)
  | .shiftRight x _ => some (v x % 2 = 1)
  | .subFrom x y => some (v x ≤ v y)
  | .shiftLeft x _ => some (0x80 ≤ v x)
  | _ => none

/-- Only machine code routines can be improper, and they compute nothing. -/
theorem isProper_of_result? {v : Nibble → Nat} {instruction : Instruction}
    {computed : Nibble × Int} (computes : instruction.result? v = some computed) :
    instruction.IsProper := by
  cases instruction with
  | sys target => cases computes
  | _ => trivial

end Instruction

namespace Cpu

/-- The byte in a register. -/
def register (cpu : Cpu) (x : Nibble) : Nat := (cpu.v.get x).toNat

/-- The registers after arithmetic: the flag is in register F if there is one, the result is in its
target unless the flag is there, and all other registers are as before. -/
structure Computed (before after : Cpu) (target : Nibble) (result : Int) (flag : Option Bool) :
    Prop where
  flagged : ∀ outcome, flag = some outcome → after.register 0xF = if outcome then 1 else 0
  written : flag = none ∨ target ≠ 0xF → (after.register target : Int) = result % 0x100
  kept : ∀ x, x ≠ target → flag = none ∨ x ≠ 0xF → after.register x = before.register x

variable {cpu : Cpu} {target : Nibble} {byte : UInt8} {result : Int}

theorem register_setV (cpu : Cpu) (target x : Nibble) (byte : UInt8) :
    (cpu.setV target byte).register x = if x = target then byte.toNat else cpu.register x := by
  unfold register
  rw [get_setV]
  split <;> rfl

theorem computed_setV (cut : (byte.toNat : Int) = result % 0x100) :
    Computed cpu (cpu.setV target byte) target result none where
  flagged := fun _ told => by cases told
  written := fun _ => by rw [register_setV, if_pos rfl, cut]
  kept := fun x other _ => by rw [register_setV, if_neg other]

/-- The flag is written behind the result. -/
theorem computed_setFlag (cut : (byte.toNat : Int) = result % 0x100) {flag told : Bool}
    (tells : flag = told) :
    Computed cpu ((cpu.setV target byte).setFlag flag) target result (some told) where
  flagged := by
    rintro _ ⟨⟩
    rw [setFlag, register_setV, if_pos rfl, tells]
    cases told <;> rfl
  written := by
    rintro (unflagged | apart)
    · cases unflagged
    · rw [setFlag, register_setV, if_neg apart, register_setV, if_pos rfl, cut]
  kept := by
    rintro x other (unflagged | apart)
    · cases unflagged
    · rw [setFlag, register_setV, if_neg apart, register_setV, if_neg other]

/-! ### Bytes and flags -/

/-- A result that is a byte is not cut. -/
theorem toNat_uncut {value : Nat} (same : byte.toNat = value) :
    (byte.toNat : Int) = (value : Int) % 0x100 := by
  have small := byte.toNat_lt
  omega

theorem toNat_sum (first second : Nat) :
    ((UInt8.ofNat (first + second)).toNat : Int) = ((first : Int) + second) % 0x100 := by
  rw [UInt8.toNat_ofNat']
  omega

theorem toNat_difference (minuend subtrahend : UInt8) :
    ((minuend - subtrahend).toNat : Int) = ((minuend.toNat : Int) - subtrahend.toNat) % 0x100 := by
  have small := subtrahend.toNat_lt
  rw [UInt8.toNat_sub]
  omega

theorem toNat_half (byte : UInt8) :
    ((byte >>> 1).toNat : Int) = ((byte.toNat : Int) / 2) % 0x100 := by
  have half : (byte >>> 1).toNat = byte.toNat / 2 := by
    rw [UInt8.toNat_shiftRight]
    exact Nat.shiftRight_one _
  rw [toNat_uncut half]
  rfl

theorem toNat_double (byte : UInt8) :
    ((byte <<< 1).toNat : Int) = (2 * (byte.toNat : Int)) % 0x100 := by
  rw [UInt8.toNat_shiftLeft]
  show ((byte.toNat <<< 1 % 2 ^ 8 : Nat) : Int) = _
  rw [Nat.shiftLeft_eq]
  omega

theorem testBit_high (byte : UInt8) : byte.toNat.testBit 7 = decide (0x80 ≤ byte.toNat) := by
  have small := byte.toNat_lt
  rw [Nat.testBit_eq_decide_div_mod_eq, decide_eq_decide]
  omega

end Cpu

namespace Machine

open Cpu (Computed)

/-- An instruction that computes succeeds, and changes nothing but registers. -/
theorem computed_execute {machine : Machine} {instruction : Instruction} {target : Nibble}
    {result : Int} (computes : instruction.result? machine.cpu.register = some (target, result)) :
    ∃ v, machine.execute instruction = (machine.withCpu { machine.cpu with v }, none) ∧
      Computed machine.cpu { machine.cpu with v } target result
        (instruction.flag? machine.cpu.register) := by
  cases instruction with
  | addByte x byte =>
      cases computes
      exact ⟨_, rfl, Cpu.computed_setV (by rw [UInt8.toNat_add]; rfl)⟩
  | or x y =>
      cases computes
      exact ⟨_, rfl, Cpu.computed_setV (Cpu.toNat_uncut (UInt8.toNat_or _ _))⟩
  | and x y =>
      cases computes
      exact ⟨_, rfl, Cpu.computed_setV (Cpu.toNat_uncut (UInt8.toNat_and _ _))⟩
  | xor x y =>
      cases computes
      exact ⟨_, rfl, Cpu.computed_setV (Cpu.toNat_uncut (UInt8.toNat_xor _ _))⟩
  | add x y =>
      cases computes
      exact ⟨_, rfl, Cpu.computed_setFlag (Cpu.toNat_sum _ _) rfl⟩
  | sub x y =>
      cases computes
      exact ⟨_, rfl, Cpu.computed_setFlag (Cpu.toNat_difference _ _)
        (decide_eq_decide.mpr UInt8.le_iff_toNat_le)⟩
  | subFrom x y =>
      cases computes
      exact ⟨_, rfl, Cpu.computed_setFlag (Cpu.toNat_difference _ _)
        (decide_eq_decide.mpr UInt8.le_iff_toNat_le)⟩
  | shiftRight x y =>
      cases computes
      exact ⟨_, rfl, Cpu.computed_setFlag (Cpu.toNat_half _) (Nat.testBit_zero _)⟩
  | shiftLeft x y =>
      cases computes
      exact ⟨_, rfl, Cpu.computed_setFlag (Cpu.toNat_double _) (Cpu.testBit_high _)⟩
  | _ => cases computes

/-- The word of an instruction that computes leaves its result in the target and its flag in
register F, both by the registers before it and whichever of target, operands and register F
coincide. The flag wins in register F. All other registers and the rest of the machine stay as they
are. -/
theorem registers_of_arithmetic {machine : Machine} {instruction : Instruction} {target : Nibble}
    {result : Int} (computes : instruction.result? machine.cpu.register = some (target, result)) :
    ∃ v, machine.executeOpcode instruction.toWord =
        (machine.withCpu { machine.cpu with v }, none) ∧
      Computed machine.cpu { machine.cpu with v } target result
        (instruction.flag? machine.cpu.register) := by
  obtain ⟨v, executed, computed⟩ := computed_execute computes
  have proper := Instruction.isProper_of_result? computes
  obtain ⟨decoded, found, same⟩ :=
    Instruction.ofWord?_eq_some_iff_decode.mp (Instruction.ofWord?_toWord proper)
  refine ⟨v, ?_, computed⟩
  rw [executeOpcode, found]
  simp only [same]
  exact executed

/-- `ADD VF, VF` leaves the carry of its operands and not their sum: `LD VF, 0xc8` comes before. -/
theorem registers_of_arithmetic_all_in_flag :
    let machine := afterCycles [0x6F, 0xC8] 1
    ∃ v, machine.executeOpcode 0x8FF4 = (machine.withCpu { machine.cpu with v }, none) ∧
      Computed machine.cpu { machine.cpu with v } 0xF 400 (some true) ∧
      ({ machine.cpu with v } : Cpu).register 0xF = 1 := by
  have held : (afterCycles [0x6F, 0xC8] 1).cpu.register 0xF = 200 := by decide +kernel
  generalize afterCycles [0x6F, 0xC8] 1 = machine at held ⊢
  have computes : (Instruction.add 0xF 0xF).result? machine.cpu.register = some (0xF, 400) := by
    simp only [Instruction.result?, held]
    rfl
  have flag : (Instruction.add 0xF 0xF).flag? machine.cpu.register = some true := by
    simp only [Instruction.flag?, held]
    rfl
  obtain ⟨v, executed, computed⟩ := registers_of_arithmetic computes
  rw [flag] at computed
  exact ⟨v, executed, computed, computed.flagged true rfl⟩

end Machine

end Chip8
