import Chip8.Memory

/-!
The outcome of an access to memory, by its range alone.

* `check_eq`, `read_eq`, `readWord_eq`, `readBlock_eq`, `writeBlock_eq`, `write_eq`, `writeWord_eq`,
  `copyInto_eq` — an access out of range is refused with the very location and size that were asked
  for, and one in range does what it should.
* `loadProgram_eq` — a program is loaded, and refused, as a block is.
* `cell_store` — the cells after a block has been written.
* `wordAt_lt` — a word has at most 16 bits.
-/

namespace Chip8.Memory

/-- The big-endian word in the cells from `address` on. -/
def wordAt (memory : Memory) (address : Nat) : Nat :=
  256 * (memory.cell address).toNat + (memory.cell (address + 1)).toNat

theorem wordAt_lt (memory : Memory) (address : Nat) : memory.wordAt address < 0x10000 := by
  have high := (memory.cell address).toNat_lt
  have low := (memory.cell (address + 1)).toNat_lt
  simp only [wordAt]
  omega

/-- A check in front of a computation decides between its result and a refusal. -/
theorem check_bind {α : Type} (location size : Int) (next : Unit → Except Fault α) :
    (check location size >>= next) =
      if InRange location size then next () else .error (.outOfRange location size) := by
  unfold check
  split <;> rfl

theorem check_eq (location size : Int) :
    check location size =
      if InRange location size then .ok () else .error (.outOfRange location size) :=
  rfl

theorem read_eq (memory : Memory) (location : Int) :
    memory.read location =
      if InRange location 1 then .ok (memory.cell location.toNat)
      else .error (.outOfRange location 1) :=
  check_bind location 1 _

theorem readWord_eq (memory : Memory) (location : Int) :
    memory.readWord location =
      if InRange location 2 then .ok (memory.wordAt location.toNat)
      else .error (.outOfRange location 2) :=
  check_bind location 2 _

theorem readBlock_eq (memory : Memory) (location size : Int) :
    memory.readBlock location size =
      if InRange location size then
        .ok (memory.cells.extract location.toNat (location + size).toNat).toList
      else .error (.outOfRange location size) :=
  check_bind location size _

/-- A check in front of a write decides between the memory that it leaves and a refusal that leaves
the memory as it was. -/
theorem check_write (memory : Memory) (location size : Int) (next : Memory × Option Fault) :
    (match check location size with
      | .error fault => (memory, some fault)
      | .ok () => next) =
      if InRange location size then next else (memory, some (.outOfRange location size)) := by
  unfold check
  by_cases inside : InRange location size
  · rw [if_pos inside, if_pos inside]
  · rw [if_neg inside, if_neg inside]

theorem writeBlock_eq (memory : Memory) (location : Int) (block : List UInt8) :
    memory.writeBlock location block =
      if InRange location block.length then (⟨store memory.cells location.toNat block⟩, none)
      else (memory, some (.outOfRange location block.length)) :=
  memory.check_write location block.length _

/-- The range is checked before the value. -/
theorem write_eq (memory : Memory) (location value : Int) :
    memory.write location value =
      if InRange location 1 then
        if 0 ≤ value ∧ value ≤ 0xFF then
          (⟨store memory.cells location.toNat [UInt8.ofNat value.toNat]⟩, none)
        else (memory, some (.notAByte value))
      else (memory, some (.outOfRange location 1)) :=
  memory.check_write location 1 _

theorem writeWord_eq (memory : Memory) (location word : Int) :
    memory.writeWord location word =
      if InRange location 2 then
        (⟨store memory.cells location.toNat [UInt8.ofInt (word / 0x100), UInt8.ofInt word]⟩, none)
      else (memory, some (.outOfRange location 2)) :=
  memory.check_write location 2 _

/-- The range is checked before the buffer. -/
theorem copyInto_eq (memory : Memory) (buffer : List UInt8) (location size : Int) :
    memory.copyInto buffer location size =
      if InRange location size then
        let block := (memory.cells.extract location.toNat (location + size).toNat).toList
        if block.length ≤ buffer.length then (block ++ buffer.drop block.length, none)
        else (buffer, some (.bufferTooSmall size buffer.length))
      else (buffer, some (.outOfRange location size)) := by
  unfold copyInto
  rw [readBlock_eq]
  by_cases inside : InRange location size
  · rw [if_pos inside, if_pos inside]
  · rw [if_neg inside, if_neg inside]

/-- The two checks of a program agree: one that is too long ends behind the memory. -/
theorem loadProgram_eq (memory : Memory) (program : List UInt8) :
    memory.loadProgram program = memory.writeBlock programStart program := by
  unfold loadProgram
  split
  next long =>
    have beyond : ¬ InRange programStart program.length := by
      simp only [maxProgramSize, InRange, Memory.size, programStart] at long ⊢
      omega
    rw [writeBlock_eq, if_neg beyond]
  next => rfl

/-- What a block leaves in each cell, if it ends within memory. -/
theorem cell_store (memory : Memory) {address : Nat} {block : List UInt8}
    (fits : address + block.length ≤ 0x1000) (place : Nat) :
    (⟨store memory.cells address block⟩ : Memory).cell place =
      if address ≤ place ∧ place < address + block.length then block[place - address]?.getD 0
      else memory.cell place := by
  unfold cell
  by_cases inside : place < 0x1000
  · rw [getElem?_store block memory.cells address place inside]
    split <;> rfl
  · rw [if_neg (by omega), Vector.getElem?_eq_none (by omega), Vector.getElem?_eq_none (by omega)]

/-- Where a block that is in range ends. -/
theorem end_le_of_inRange {location size : Int} (inside : InRange location size) :
    location.toNat + size.toNat ≤ 0x1000 := by
  simp only [InRange, Memory.size] at inside
  omega

/-- From a location within or at the end of memory, only the last byte can be out of range. -/
theorem inRange_iff_of_nonneg {location : Int} (size : Nat) (nonneg : 0 ≤ location) :
    InRange location size ↔ location + size ≤ 0x1000 := by
  simp only [InRange, Memory.size]
  omega

end Chip8.Memory
