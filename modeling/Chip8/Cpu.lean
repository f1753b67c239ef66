import Chip8.CallStack
import Chip8.Opcode

/-!
The state of the processor: sixteen byte registers, an index register, two timers, the program
counter and the call stack. Beside them it keeps where the last instruction was fetched and its
word, for reports.

A running program keeps the index within 16 bits and the timers within a byte; a host may set
them to any integer, so they are integers here.
-/

namespace Chip8

structure Cpu where
  v : Vector UInt8 16
  i : Int
  delay : Int
  sound : Int
  pc : Int
  /-- Where the last cycle fetched its instruction. -/
  fetchedAt : Int
  /-- The word that was fetched last. -/
  opcode : Int
  stack : CallStack
  deriving DecidableEq, Repr

namespace Cpu

def registerCount : Nat := 16

/-- All registers zero, the stack empty, and the next fetch at `start`. -/
def initial (start : Int) : Cpu where
  v := Vector.replicate 16 0
  i := 0
  delay := 0
  sound := 0
  pc := start
  fetchedAt := start
  opcode := 0
  stack := { capacity := CallStack.depthLimit }

/-! ### Program counter -/

/-- Moves past one instruction. Past the end of memory the next fetch faults. -/
def advance (cpu : Cpu) : Cpu := { cpu with pc := cpu.pc + Opcode.width }

/-- Moves back by one instruction, within 12 bits. -/
def rewind (cpu : Cpu) : Cpu := { cpu with pc := (cpu.pc - Opcode.width) % 0x1000 }

def skipIf (cpu : Cpu) (condition : Bool) : Cpu :=
  if condition then cpu.advance else cpu

/-! ### Timers -/

/-- Both timers count down to zero. -/
def tick (cpu : Cpu) : Cpu :=
  { cpu with
    delay := if 0 < cpu.delay then cpu.delay - 1 else cpu.delay
    sound := if 0 < cpu.sound then cpu.sound - 1 else cpu.sound }

/-! ### Registers -/

def setV (cpu : Cpu) (x : Nibble) (byte : UInt8) : Cpu := { cpu with v := cpu.v.set x byte }

/-- Register F, which holds the outcome of arithmetic and drawing. -/
def setFlag (cpu : Cpu) (flag : Bool) : Cpu := cpu.setV 0xF (if flag then 1 else 0)

/-- Puts a block over the first registers. -/
def loadFront (cpu : Cpu) (block : List UInt8) : Cpu :=
  { cpu with v := Vector.ofFn fun j => block[j.val]?.getD (cpu.v.get j) }

/-- The write of a register is what is read there, and no other register changes. -/
theorem get_setV (cpu : Cpu) (x register : Nibble) (byte : UInt8) :
    (cpu.setV x byte).v.get register = if register = x then byte else cpu.v.get register := by
  show (cpu.v.set x byte)[register.val] = if register = x then byte else cpu.v[register.val]
  rw [Vector.getElem_set]
  by_cases same : x.val = register.val
  · rw [if_pos same, if_pos (Fin.ext same.symm)]
  · rw [if_neg same, if_neg (mt (congrArg Fin.val) (Ne.symm same))]

/-- Registers behind the block keep their bytes. -/
theorem get_loadFront (cpu : Cpu) (block : List UInt8) (register : Nibble) :
    (cpu.loadFront block).v.get register = block[register.val]?.getD (cpu.v.get register) :=
  Vector.getElem_ofFn _

/-- The low byte of an integer, in two's complement. -/
def lowByte (value : Int) : UInt8 := UInt8.ofNat (value % 0x100).toNat

/-! ### Arithmetic

The flag is written after the result, so it wins where register F is the target. -/

/-- Adds `y` to `x`; the flag tells of a carry. -/
def add (cpu : Cpu) (x y : Nibble) : Cpu :=
  let sum := (cpu.v.get x).toNat + (cpu.v.get y).toNat
  (cpu.setV x (UInt8.ofNat sum)).setFlag (0xFF < sum)

/-- Puts a difference into `x`; the flag tells that nothing was borrowed. -/
def setDifference (cpu : Cpu) (x : Nibble) (minuend subtrahend : UInt8) : Cpu :=
  (cpu.setV x (minuend - subtrahend)).setFlag (subtrahend ≤ minuend)

/-- Halves `x`; the flag takes the bit shifted out. -/
def shiftRight (cpu : Cpu) (x : Nibble) : Cpu :=
  let byte := cpu.v.get x
  (cpu.setV x (byte >>> 1)).setFlag (byte.toNat.testBit 0)

/-- Doubles `x`; the flag takes the bit shifted out. -/
def shiftLeft (cpu : Cpu) (x : Nibble) : Cpu :=
  let byte := cpu.v.get x
  (cpu.setV x (byte <<< 1)).setFlag (byte.toNat.testBit 7)

end Cpu

end Chip8
