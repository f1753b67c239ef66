import Chip8.Font
import Chip8.Text.Hex

/-!
The 4 KiB of memory. Every access names a first address and a number of bytes, and is checked
as a whole before a byte is read or written. Words are big-endian.
-/

namespace Chip8

structure Memory where
  cells : Vector UInt8 4096
  deriving DecidableEq, Repr

namespace Memory

/-- The number of addresses. -/
def size : Nat := 0x1000

/-- Where programs are loaded. Everything below is reserved. -/
def programStart : Nat := 0x200

/-- The longest program that fits. -/
def maxProgramSize : Nat := size - programStart

inductive Fault where
  /-- Some of the `size` bytes from `location` on are not addresses of the memory. -/
  | outOfRange (location size : Int)
  /-- The value to store does not fit into a byte. -/
  | notAByte (value : Int)
  /-- The block to copy is longer than the buffer that should take it. -/
  | bufferTooSmall (size : Int) (capacity : Nat)
  deriving DecidableEq, Repr

def Fault.message : Fault → String
  | .outOfRange location size =>
      s!"Illegal memory access at address 0x" ++ Text.paddedHex 3 location ++
        s!" for {size} byte(s)"
  | .notAByte value => s!"Value {value} does not fit into a byte"
  | .bufferTooSmall size capacity => s!"Block of {size} byte(s) for a buffer of {capacity}"

/-- The `size` bytes from `location` on are all addresses of the memory. No bytes at the end
of the memory are in range too. -/
def InRange (location size : Int) : Prop :=
  0 ≤ location ∧ 0 ≤ size ∧ location + size ≤ Memory.size

instance (location size : Int) : Decidable (InRange location size) :=
  inferInstanceAs (Decidable (_ ∧ _ ∧ _))

def check (location size : Int) : Except Fault Unit :=
  if InRange location size then .ok () else .error (.outOfRange location size)

theorem check_eq_ok_iff {location size : Int} :
    check location size = .ok () ↔ InRange location size := by
  unfold check
  split <;> simp [*]

/-! ### Cells -/

/-- The byte at `address`, and zero beyond the memory. -/
def cell (memory : Memory) (address : Nat) : UInt8 :=
  memory.cells[address]?.getD 0

/-- Puts `block` into the cells from `address` on. -/
def store (cells : Vector UInt8 4096) (address : Nat) : List UInt8 → Vector UInt8 4096
  | [] => cells
  | byte :: rest => store (cells.setIfInBounds address byte) (address + 1) rest

/-- Each byte of a block lands in a cell of its own, and the other cells keep theirs. -/
theorem getElem?_store (block : List UInt8) (cells : Vector UInt8 4096) (address place : Nat)
    (inside : place < 4096) :
    (store cells address block)[place]? =
      if address ≤ place ∧ place < address + block.length then block[place - address]?
      else cells[place]? := by
  induction block generalizing cells address with
  | nil =>
      rw [if_neg (by simp only [List.length_nil]; omega)]
      rfl
  | cons byte rest ih =>
      rw [store, ih, Vector.getElem?_setIfInBounds]
      by_cases first : address = place
      · subst first
        rw [if_neg (by omega)]
        simp [inside]
      · by_cases behind : address + 1 ≤ place ∧ place < address + 1 + rest.length
        · have index : place - address = place - (address + 1) + 1 := by omega
          rw [if_pos behind, if_pos (by simp only [List.length_cons]; omega), index,
            List.getElem?_cons_succ]
        · rw [if_neg behind, if_neg first, if_neg (by simp only [List.length_cons]; omega)]

/-- Memory before any program is loaded: the glyphs, and zeros. -/
def initial : Memory :=
  ⟨store (Vector.replicate 4096 0) Font.location Font.glyphs⟩

/-! ### Reading -/

def read (memory : Memory) (location : Int) : Except Fault UInt8 := do
  check location 1
  return memory.cell location.toNat

/-- The big-endian word at `location`. -/
def readWord (memory : Memory) (location : Int) : Except Fault Nat := do
  check location 2
  let address := location.toNat
  return 256 * (memory.cell address).toNat + (memory.cell (address + 1)).toNat

def readBlock (memory : Memory) (location size : Int) : Except Fault (List UInt8) := do
  check location size
  return (memory.cells.extract location.toNat (location + size).toNat).toList

/-- Puts a block over the front of `buffer`, whose length stays as it is. The answer is the buffer
that is left, with the fault if the block is refused. -/
def copyInto (memory : Memory) (buffer : List UInt8) (location size : Int) :
    List UInt8 × Option Fault :=
  match memory.readBlock location size with
  | .error fault => (buffer, some fault)
  | .ok block =>
      if block.length ≤ buffer.length then (block ++ buffer.drop block.length, none)
      else (buffer, some (.bufferTooSmall size buffer.length))

/-! ### Writing

A write answers the memory that it leaves, also when it is refused. -/

/-- Replaces one byte. -/
def put (memory : Memory) (address : Nat) (byte : UInt8) : Memory :=
  ⟨memory.cells.setIfInBounds address byte⟩

def writeBlock (memory : Memory) (location : Int) (block : List UInt8) : Memory × Option Fault :=
  match check location block.length with
  | .error fault => (memory, some fault)
  | .ok () => (⟨store memory.cells location.toNat block⟩, none)

def write (memory : Memory) (location value : Int) : Memory × Option Fault :=
  match check location 1 with
  | .error fault => (memory, some fault)
  | .ok () =>
      if 0 ≤ value ∧ value ≤ 0xFF then
        (memory.put location.toNat (UInt8.ofNat value.toNat), none)
      else
        (memory, some (.notAByte value))

/-- Stores the low 16 bits of `word`, high byte first. -/
def writeWord (memory : Memory) (location word : Int) : Memory × Option Fault :=
  match check location 2 with
  | .error fault => (memory, some fault)
  | .ok () =>
      let memory := memory.put location.toNat (UInt8.ofInt (word / 0x100))
      (memory.put (location.toNat + 1) (UInt8.ofInt word), none)

/-- Writes a program at `programStart`. One that is longer than `maxProgramSize` is refused before
the memory is asked. -/
def loadProgram (memory : Memory) (program : List UInt8) : Memory × Option Fault :=
  if maxProgramSize < program.length then
    (memory, some (.outOfRange programStart program.length))
  else
    memory.writeBlock programStart program

end Memory

end Chip8
