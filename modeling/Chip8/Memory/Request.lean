import Chip8.Memory

/-!
What can be asked of a memory, as data, and histories of such requests. A history goes on after a
request that is refused.
-/

namespace Chip8.Memory

inductive Request where
  | check (location size : Int)
  | read (location : Int)
  | write (location value : Int)
  | readWord (location : Int)
  | writeWord (location word : Int)
  | readBlock (location size : Int)
  | writeBlock (location : Int) (block : List UInt8)
  /-- Puts a block over the front of a buffer that is handed over with the request. -/
  | copyInto (buffer : List UInt8) (location size : Int)
  | loadProgram (program : List UInt8)
  deriving DecidableEq, Repr

namespace Request

/-- The first address that a request touches. -/
def location : Request → Int
  | .check location _ | .read location | .write location _ | .readWord location
  | .writeWord location _ | .readBlock location _ | .writeBlock location _
  | .copyInto _ location _ => location
  | .loadProgram _ => programStart

/-- The number of bytes that a request touches. -/
def size : Request → Int
  | .check _ size | .readBlock _ size | .copyInto _ _ size => size
  | .read _ | .write _ _ => 1
  | .readWord _ | .writeWord _ _ => 2
  | .writeBlock _ block => block.length
  | .loadProgram program => program.length

/-- The buffer that is handed over, if any. -/
def buffer : Request → List UInt8
  | .copyInto buffer _ _ => buffer
  | _ => []

end Request

inductive Answer where
  | done
  | byte (byte : UInt8)
  | word (word : Nat)
  | block (block : List UInt8)
  deriving DecidableEq, Repr

/-- What comes of a request beside the memory. -/
structure Reply where
  answer : Except Fault Answer
  /-- The buffer that was handed over, as it is left. -/
  buffer : List UInt8 := []

/-- The outcome of a request that leaves the memory alone. -/
def inform (memory : Memory) (answer : Except Fault Answer) : Memory × Reply := (memory, { answer })

/-- The outcome of a request that writes: the memory that is left, and the fault if there is one. -/
def settle : Memory × Option Fault → Memory × Reply
  | (left, none) => (left, { answer := .ok .done })
  | (left, some fault) => (left, { answer := .error fault })

def apply (memory : Memory) : Request → Memory × Reply
  | .check location size => memory.inform ((Memory.check location size).map fun _ => .done)
  | .read location => memory.inform ((memory.read location).map .byte)
  | .write location value => settle (memory.write location value)
  | .readWord location => memory.inform ((memory.readWord location).map .word)
  | .writeWord location word => settle (memory.writeWord location word)
  | .readBlock location size => memory.inform ((memory.readBlock location size).map .block)
  | .writeBlock location block => settle (memory.writeBlock location block)
  | .copyInto buffer location size =>
      let (buffer, fault) := memory.copyInto buffer location size
      (memory, { answer := fault.elim (.ok .done) .error, buffer })
  | .loadProgram program => settle (memory.loadProgram program)

/-- Makes requests one after the other, with the reply to each. -/
def run (memory : Memory) : List Request → Memory × List Reply
  | [] => (memory, [])
  | request :: rest =>
      let (next, reply) := memory.apply request
      let (last, replies) := next.run rest
      (last, reply :: replies)

end Chip8.Memory
