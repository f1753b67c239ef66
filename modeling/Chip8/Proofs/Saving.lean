import Chip8.Proofs.Unread

/-!
Registers that are saved in memory and restored, and bytes that are stored as decimals.

* `Poised` — a machine as an instruction finds it, alone or in a cycle.
* `Saves`, `Restores`, `StoresDigits` — what the three instructions leave in memory and in
  registers.
* `Move`, `Spares` — what can happen to a machine in between, and that it leaves the index register
  and the bytes of a block alone.
* `block_of_afterMoves` — moves that spare a block, each of them, spare it together.
* `registers_of_saving` — all of this for every machine that a run has made.
-/

namespace Chip8

open Memory (InRange Within Image)

/-! ### Blocks -/

namespace Memory.Image

variable {image : Image} {block : List UInt8}

theorem put_inside {address offset : Nat} {byte : UInt8} (found : block[offset]? = some byte) :
    put image address block (address + offset) = byte := by
  obtain ⟨inside, -⟩ := List.getElem?_eq_some_iff.mp found
  rw [put, if_pos ⟨Nat.le_add_right address offset, Nat.add_lt_add_left inside address⟩,
    Nat.add_sub_cancel_left, found]
  rfl

theorem put_outside {location : Int} {address : Nat} (nonneg : 0 ≤ location)
    (outside : ¬ Within location block.length address) :
    put image location.toNat block address = image address := by
  simp only [Within] at outside
  exact if_neg (by omega)

end Memory.Image

/-- A memory is its cells. -/
theorem Memory.eq_of_cell {memory other : Memory}
    (same : ∀ address, memory.cell address = other.cell address) : memory = other := by
  obtain ⟨cells⟩ := memory
  obtain ⟨others⟩ := other
  refine congrArg Memory.mk (Vector.ext fun index inside => ?_)
  have found := same index
  simp only [cell, Vector.getElem?_eq_getElem inside, Option.getD_some] at found
  exact found

/-- From one memory to the next, the registers up to `x` were put into the bytes from `index` on,
and no other byte has changed. -/
structure Memory.Saves (index : Int) (x : Nibble) (v : Vector UInt8 16) (before after : Memory) :
    Prop where
  saved : ∀ register : Nibble, register.val ≤ x.val →
    after.cell (index.toNat + register.val) = v.get register
  kept : ∀ address, ¬ Within index (x.val + 1) address → after.cell address = before.cell address

/-- From one register file to the next, the registers up to `x` were taken from the bytes from
`index` on, and no other register has changed. -/
structure Memory.Restores (index : Int) (x : Nibble) (memory : Memory)
    (before after : Vector UInt8 16) : Prop where
  restored : ∀ register : Nibble, register.val ≤ x.val →
    after.get register = memory.cell (index.toNat + register.val)
  kept : ∀ register : Nibble, x.val < register.val → after.get register = before.get register

/-- From one memory to the next, the decimal digits of a byte were put into the three bytes from
`index` on, and no other byte has changed. -/
structure Memory.StoresDigits (index : Int) (byte : UInt8) (before after : Memory) : Prop where
  digits : ∀ offset < 3, (after.cell (index.toNat + offset)).toNat ≤ 9
  value : 100 * (after.cell index.toNat).toNat + 10 * (after.cell (index.toNat + 1)).toNat +
    (after.cell (index.toNat + 2)).toNat = byte.toNat
  kept : ∀ address, ¬ Within index 3 address → after.cell address = before.cell address

namespace Machine

variable {machine start : Machine} {x : Nibble}

/-! ### The three instructions -/

/-- How an instruction finds a machine: as it stands, or past the word that a cycle has fetched. -/
inductive Poised (machine : Machine) : Machine → Prop where
  | standing : Poised machine machine
  | fetched : Poised machine machine.fetched

namespace Poised

theorem v (poised : Poised machine start) : start.cpu.v = machine.cpu.v := by cases poised <;> rfl

theorem index (poised : Poised machine start) : start.cpu.i = machine.cpu.i := by
  cases poised <;> rfl

theorem memory (poised : Poised machine start) : start.memory = machine.memory := by
  cases poised <;> rfl

end Poised

/-- What an instruction stores lies where the index register points, and nowhere else. -/
theorem block_of_execute {next : Machine} {instruction : Instruction}
    (nonneg : 0 ≤ machine.cpu.i) (succeeded : machine.execute instruction = (next, none)) :
    (∀ offset byte, (machine.storedBlock instruction)[offset]? = some byte →
      next.memory.cell (machine.cpu.i.toNat + offset) = byte) ∧
      ∀ address, ¬ Within machine.cpu.i instruction.footprint.stored address →
        next.memory.cell address = machine.memory.cell address := by
  rw [cell_of_execute succeeded, ← machine.length_storedBlock instruction]
  exact ⟨fun _ _ => Image.put_inside, fun _ => Image.put_outside nonneg⟩

theorem saves_of_execute (inside : InRange machine.cpu.i (x.val + 1 : Nat)) :
    ∃ memory, machine.execute (.storeRegisters x) = ({ machine with memory }, none) ∧
      Memory.Saves machine.cpu.i x machine.cpu.v machine.memory memory := by
  obtain ⟨memory, executed⟩ :
      ∃ memory, machine.execute (.storeRegisters x) = ({ machine with memory }, none) :=
    ⟨_, (machine.execute_storeRegisters x).trans (if_pos inside)⟩
  obtain ⟨stored, kept⟩ := block_of_execute inside.1 executed
  refine ⟨memory, executed, fun register front => stored _ _ ?_, kept⟩
  rw [storedBlock, List.getElem?_take_of_lt (Nat.lt_succ_of_le front), Vector.getElem?_toList]
  exact Vector.getElem?_eq_getElem register.isLt

theorem restores_of_execute (inside : InRange machine.cpu.i (x.val + 1 : Nat)) :
    ∃ v, machine.execute (.loadRegisters x) = (machine.withCpu { machine.cpu with v }, none) ∧
      Memory.Restores machine.cpu.i x machine.memory machine.cpu.v v := by
  have executed := machine.execute_loadRegisters x
  have loaded := machine.cpu.get_loadFront (machine.blockAtIndex (x.val + 1))
  have framed : machine.cpu.loadFront (machine.blockAtIndex (x.val + 1)) = { machine.cpu with
    v := (machine.cpu.loadFront (machine.blockAtIndex (x.val + 1))).v } := rfl
  rw [if_pos inside, framed] at executed
  rw [blockAtIndex_eq_slice inside] at loaded executed
  generalize (machine.cpu.loadFront _).v = v at loaded executed
  refine ⟨v, executed, fun register front => ?_, fun register behind => ?_⟩
  · rw [loaded, Image.slice, List.getElem?_map, List.getElem?_range (Nat.lt_succ_of_le front)]
    rfl
  · rw [loaded, List.getElem?_eq_none (by rw [Image.length_slice]; exact behind)]
    rfl

/-- The decimal digits of a byte. -/
theorem value_decimalDigits (byte : UInt8) :
    ∃ hundreds tens ones, decimalDigits byte = [hundreds, tens, ones] ∧
      (hundreds.toNat ≤ 9 ∧ tens.toNat ≤ 9 ∧ ones.toNat ≤ 9) ∧
      100 * hundreds.toNat + 10 * tens.toNat + ones.toNat = byte.toNat := by
  have small := byte.toNat_lt
  refine ⟨_, _, _, rfl, ?_⟩
  simp only [UInt8.toNat_div, UInt8.toNat_mod, UInt8.reduceToNat]
  omega

theorem digits_of_execute (inside : InRange machine.cpu.i (3 : Nat)) :
    ∃ memory, machine.execute (.storeDecimal x) = ({ machine with memory }, none) ∧
      Memory.StoresDigits machine.cpu.i (machine.cpu.v.get x) machine.memory memory := by
  obtain ⟨memory, executed⟩ :
      ∃ memory, machine.execute (.storeDecimal x) = ({ machine with memory }, none) :=
    ⟨_, (machine.execute_storeDecimal x).trans (if_pos inside)⟩
  obtain ⟨stored, kept⟩ := block_of_execute inside.1 executed
  obtain ⟨hundreds, tens, ones, digits, small, value⟩ := value_decimalDigits (machine.cpu.v.get x)
  simp only [storedBlock, digits] at stored
  have first := stored 0 hundreds rfl
  have second := stored 1 tens rfl
  have third := stored 2 ones rfl
  rw [Nat.add_zero] at first
  refine ⟨memory, executed, fun offset inside => ?_, by rw [first, second, third, value], kept⟩
  obtain rfl | rfl | rfl : offset = 0 ∨ offset = 1 ∨ offset = 2 := by omega
  · exact (congrArg UInt8.toNat first).trans_le small.1
  · exact (congrArg UInt8.toNat second).trans_le small.2.1
  · exact (congrArg UInt8.toNat third).trans_le small.2.2

/-! ### What comes in between -/

/-- What can happen to a machine: an instruction is executed where it stands, or an operation is
applied, such as a cycle. -/
inductive Move where
  | execute (instruction : Instruction)
  | apply (operation : Operation)

/-- The machine after a move, whether it succeeds or fails. -/
def after (machine : Machine) : Move → Machine
  | .execute instruction => (machine.execute instruction).1
  | .apply operation => (machine.apply operation).1

/-- The machine after some moves. -/
def afterMoves (machine : Machine) (moves : List Move) : Machine := moves.foldl after machine

/-- A move changes neither the index register nor the `size` bytes from where it points. -/
def Spares (machine : Machine) (size : Nat) (move : Move) : Prop :=
  (machine.after move).cpu.i = machine.cpu.i ∧
    ∀ offset < size, (machine.after move).memory.cell (machine.cpu.i.toNat + offset) =
      machine.memory.cell (machine.cpu.i.toNat + offset)

/-- Each of the moves spares the block where the index register points. -/
def SparesAll (size : Nat) : Machine → List Move → Prop
  | _, [] => True
  | machine, move :: rest => machine.Spares size move ∧ SparesAll size (machine.after move) rest

/-- Moves that spare a block, each of them, spare it together. -/
theorem block_of_afterMoves {size : Nat} {moves : List Move}
    (spared : SparesAll size machine moves) :
    (machine.afterMoves moves).cpu.i = machine.cpu.i ∧
      ∀ offset < size, (machine.afterMoves moves).memory.cell (machine.cpu.i.toNat + offset) =
        machine.memory.cell (machine.cpu.i.toNat + offset) := by
  induction moves generalizing machine with
  | nil => exact ⟨rfl, fun _ _ => rfl⟩
  | cons move rest ih =>
      obtain ⟨⟨index, block⟩, later⟩ := spared
      obtain ⟨index', block'⟩ := ih later
      rw [index] at index' block'
      exact ⟨index', fun offset inside => (block' offset inside).trans (block offset inside)⟩

/-! ### Saving and restoring -/

/-- An instruction finds the bytes that fit behind the index register in range. -/
theorem Poised.inRange (poised : Poised machine start) (nonneg : 0 ≤ machine.cpu.i) {size : Nat}
    (fits : machine.cpu.i + size ≤ 0x1000) : InRange start.cpu.i size := by
  rw [poised.index]
  exact (Memory.inRange_iff_of_nonneg size nonneg).mpr fits

/-- Registers that were saved are restored, whatever spares them in between. -/
theorem restores_of_saves (machine : Machine) {later : Machine} {memory : Memory}
    {v : Vector UInt8 16} {moves : List Move} (inside : InRange machine.cpu.i (x.val + 1 : Nat))
    (saves : Memory.Saves machine.cpu.i x v memory machine.memory)
    (spared : SparesAll (x.val + 1) machine moves)
    (poised : Poised (machine.afterMoves moves) later) :
    ∃ v', later.execute (.loadRegisters x) = (later.withCpu { later.cpu with v := v' }, none) ∧
      ∀ register : Nibble, register.val ≤ x.val → v'.get register = v.get register := by
  obtain ⟨index, block⟩ := block_of_afterMoves spared
  have index : later.cpu.i = machine.cpu.i := poised.index.trans index
  obtain ⟨v', executed, restores⟩ := restores_of_execute (x := x) (index.symm ▸ inside)
  refine ⟨v', executed, fun register front => ?_⟩
  rw [restores.restored register front, poised.memory, index,
    block register.val (Nat.lt_succ_of_le front), saves.saved register front]

/-- Saving the registers again that have just been restored changes nothing. -/
theorem execute_of_restores {next : Machine} {v : Vector UInt8 16}
    (inside : InRange machine.cpu.i (x.val + 1 : Nat))
    (restores : Memory.Restores machine.cpu.i x machine.memory machine.cpu.v v)
    (poised : Poised (machine.withCpu { machine.cpu with v }) next) :
    next.execute (.storeRegisters x) = (next, none) := by
  have index : next.cpu.i = machine.cpu.i := poised.index
  have memory : next.memory = machine.memory := poised.memory
  have registers : next.cpu.v = v := poised.v
  obtain ⟨saved, executed, saves⟩ := saves_of_execute (x := x) (index.symm ▸ inside)
  have same : saved = next.memory := by
    refine Memory.eq_of_cell fun address => ?_
    by_cases within : Within next.cpu.i (x.val + 1) address
    · obtain ⟨low, high⟩ := within
      rw [index] at low high
      have nonneg : 0 ≤ machine.cpu.i := inside.1
      obtain ⟨register, front, rfl⟩ : ∃ register : Nibble, register.val ≤ x.val ∧
          address = machine.cpu.i.toNat + register.val :=
        ⟨⟨address - machine.cpu.i.toNat, by omega⟩, by simp only; omega, by simp only; omega⟩
      have stored := saves.saved register front
      rw [index, registers, restores.restored register front] at stored
      rw [stored, memory]
    · exact saves.kept address within
  rw [executed, same]

/-- Saving, restoring and storing as decimals.

Executing an instruction alone or in a cycle, and for every register `x` and wherever the index
register points so that the block ends within memory:

* The registers up to `x` are put into the bytes there, and no other byte changes. Whatever happens
  then, as long as each move leaves the index register and these bytes alone, the same registers are
  restored to what they were.
* The registers up to `x` are taken from the bytes there, and no other register changes. Saving them
  directly afterwards changes nothing at all.
* The decimal digits of register `x` are put into the three bytes there, and no other byte changes.

None of these instructions moves the index register. -/
theorem registers_of_saving (reachable : machine.Reachable) (poised : Poised machine start)
    (x : Nibble) :
    (machine.cpu.i + x.val ≤ 0xFFF →
      (∃ saved, start.execute (.storeRegisters x) = ({ start with memory := saved }, none) ∧
        Memory.Saves machine.cpu.i x machine.cpu.v machine.memory saved ∧
        ∀ moves later, SparesAll (x.val + 1) { start with memory := saved } moves →
          Poised (afterMoves { start with memory := saved } moves) later →
          ∃ v, later.execute (.loadRegisters x) = (later.withCpu { later.cpu with v }, none) ∧
            ∀ register : Nibble, register.val ≤ x.val →
              v.get register = machine.cpu.v.get register) ∧
      ∃ v, start.execute (.loadRegisters x) = (start.withCpu { start.cpu with v }, none) ∧
        Memory.Restores machine.cpu.i x machine.memory machine.cpu.v v ∧
        ∀ next, Poised (start.withCpu { start.cpu with v }) next →
          next.execute (.storeRegisters x) = (next, none)) ∧
    (machine.cpu.i ≤ 0xFFD →
      ∃ stored, start.execute (.storeDecimal x) = ({ start with memory := stored }, none) ∧
        Memory.StoresDigits machine.cpu.i (machine.cpu.v.get x) machine.memory stored) ∧
    ∀ instruction ∈ [.storeRegisters x, .loadRegisters x, .storeDecimal x],
      (start.after (.execute instruction)).cpu.i = machine.cpu.i := by
  have nonneg : 0 ≤ machine.cpu.i := reachable.bounded.index.1
  refine ⟨fun fits => ?_, fun fits => ?_, fun instruction member => ?_⟩
  · have inside : InRange start.cpu.i (x.val + 1 : Nat) := poised.inRange nonneg (by omega)
    obtain ⟨saved, executed, saves⟩ := saves_of_execute inside
    obtain ⟨v, executed', restores⟩ := restores_of_execute inside
    have given := saves
    have given' := restores
    rw [poised.index, poised.v, poised.memory] at given given'
    refine ⟨⟨saved, executed, given, fun moves later spared ready => ?_⟩, v, executed', given',
      fun next ready => execute_of_restores inside restores ready⟩
    have restored := restores_of_saves { start with memory := saved } inside saves spared ready
    rwa [poised.v] at restored
  · have inside : InRange start.cpu.i (3 : Nat) := poised.inRange nonneg (by omega)
    obtain ⟨stored, executed, digits⟩ := digits_of_execute (x := x) inside
    rw [poised.index, poised.v, poised.memory] at digits
    exact ⟨stored, executed, digits⟩
  · have still : instruction.footprint.index = false := by
      simp only [List.mem_cons, List.not_mem_nil, or_false] at member
      rcases member with rfl | rfl | rfl <;> rfl
    simp only [after]
    rcases executed : start.execute instruction with ⟨next, _ | fault⟩
    · exact ((confined_execute executed).index still).trans poised.index
    · obtain rfl := eq_of_execute_failed executed
      exact poised.index

/-- A program that saves two registers in the last bytes of memory: `LD V0, 0xc8`, `LD V1, 0x09`,
`LD I, 0xffe`, `LD [I], V1`. -/
def savingProgram : List UInt8 := [0x60, 0xC8, 0x61, 0x09, 0xAF, 0xFE, 0xF1, 0x55]

/-- The registers are restored, though they have been overwritten and the screen has been
cleared. -/
theorem registers_of_saving_at_last_bytes :
    let machine := afterCycles savingProgram 3
    let moves : List Move :=
      [.execute (.loadByte 0 0), .execute (.loadByte 1 0), .execute .clear]
    let later := machine.cycle.1.afterMoves moves
    (machine.cpu.i = 0xFFE ∧ later.cpu.v.get 0 = 0 ∧ later.cpu.v.get 1 = 0) ∧
      ∃ v, later.execute (.loadRegisters 1) = (later.withCpu { later.cpu with v }, none) ∧
        v.get 0 = 200 ∧ v.get 1 = 9 := by
  have facts :
      let machine := afterCycles savingProgram 3
      machine.paused = false ∧ machine.nextInstruction? = some (.storeRegisters 1) ∧
        machine.cpu.i = 0xFFE ∧ machine.cpu.v.get 0 = 200 ∧ machine.cpu.v.get 1 = 9 := by
    decide +kernel
  have reachable := reachable_afterCycles savingProgram 3
  generalize afterCycles savingProgram 3 = machine at facts reachable
  obtain ⟨running, saves, index, first, second⟩ := facts
  intro _ moves later
  have spared : SparesAll 2 machine.cycle.1 moves :=
    ⟨⟨rfl, fun _ _ => rfl⟩, ⟨rfl, fun _ _ => rfl⟩, ⟨rfl, fun _ _ => rfl⟩, trivial⟩
  have overwritten : later.cpu.v.get 0 = 0 ∧ later.cpu.v.get 1 = 0 := by
    have written : later.cpu.v = ((machine.cycle.1.cpu.setV 0 0).setV 1 0).v := rfl
    rw [written, Cpu.get_setV, Cpu.get_setV, Cpu.get_setV]
    exact ⟨rfl, rfl⟩
  obtain ⟨⟨⟨memory, executed, -, restored⟩, -⟩, -⟩ :=
    (registers_of_saving reachable .fetched 1).imp_left fun saved => saved (by omega)
  have cycled : machine.cycle.1 = { machine.fetched with memory } :=
    congrArg Prod.fst (cycle_of_execute running saves executed)
  rw [← cycled] at restored
  obtain ⟨v, loaded, kept⟩ := restored moves later spared .standing
  exact ⟨⟨index, overwritten⟩, v, loaded, (kept 0 (by decide)).trans first,
    (kept 1 (by decide)).trans second⟩

end Machine

end Chip8
