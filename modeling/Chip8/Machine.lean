import Chip8.Cpu.Trace
import Chip8.Instruction.Decoding
import Chip8.Instruction.Mnemonic
import Chip8.Keypad
import Chip8.Memory
import Chip8.RandomSource
import Chip8.Screen

/-!
The whole machine, and what one instruction does to it.

What is done in several steps may fail on the way, so `execute` answers the state that is left in
every case, with the fault if there is one. A cycle also moves the program counter past the
instruction before executing it; its reply holds the failure and the trace line.
-/

namespace Chip8

namespace Machine

abbrev screenWidth : Int := 64

abbrev screenHeight : Int := 32

end Machine

structure Machine where
  cpu : Cpu
  memory : Memory
  screen : Screen Machine.screenWidth Machine.screenHeight
  keypad : Keypad
  random : RandomSource
  /-- A line is written for every instruction that is executed. -/
  tracing : Bool
  paused : Bool

namespace Machine

/-- A machine without a program. -/
def fresh (random : RandomSource) (tracing : Bool) : Machine where
  cpu := Cpu.initial Memory.programStart
  memory := Memory.initial
  screen := Screen.blank screenWidth screenHeight
  keypad := Keypad.released
  random := random
  tracing := tracing
  paused := false

inductive Fault where
  | memory (fault : Memory.Fault)
  | stack (fault : CallStack.Fault)
  | opcode (unknown : Instruction.Unknown)
  | keypad (fault : Keypad.Fault)
  | screen (fault : Screen.Fault)
  /-- The delay timer, as a host has set it, does not fit into a register. -/
  | delayNotAByte (delay : Int)
  deriving DecidableEq, Repr

def Fault.message : Fault → String
  | .memory fault => fault.message
  | .stack fault => fault.message
  | .opcode unknown => unknown.message
  | .keypad fault => fault.message
  | .screen fault => fault.message
  | .delayNotAByte delay => s!"Delay timer {delay} does not fit into a register"

/-- The fault is one of the running program, and halts it. -/
def Fault.isCrash : Fault → Bool
  | .memory _ | .stack _ | .opcode _ => true
  | .keypad _ | .screen _ | .delayNotAByte _ => false

/-! ### Executing -/

/-- Continues with another processor state. -/
def withCpu (machine : Machine) (cpu : Cpu) : Machine := { machine with cpu }

/-- Skips the next instruction if the key that a register names is down, or is up. Only the low
four bits of the register count. -/
def skipOnKey (machine : Machine) (x : Nibble) (down : Bool) : Machine × Option Fault :=
  match machine.keypad.isDown (machine.cpu.v.get x &&& 0xF).toNat with
  | .ok state => (machine.withCpu (machine.cpu.skipIf (state == down)), none)
  | .error fault => (machine, some (.keypad fault))

/-- Takes the lowest key that is down, or repeats the instruction. -/
def awaitKey (machine : Machine) (x : Nibble) : Machine :=
  match machine.keypad.firstDown with
  | some key => machine.withCpu (machine.cpu.setV x (UInt8.ofNat key.val))
  | none => machine.withCpu machine.cpu.rewind

/-- The hundreds, the tens and the ones of a byte. -/
def decimalDigits (byte : UInt8) : List UInt8 := [byte / 100, byte / 10 % 10, byte % 10]

def writeAtIndex (machine : Machine) (block : List UInt8) : Machine × Option Fault :=
  let (memory, fault) := machine.memory.writeBlock machine.cpu.i block
  ({ machine with memory }, fault.map .memory)

def readAtIndex (machine : Machine) (size : Nat) : Except Fault (List UInt8) :=
  (machine.memory.readBlock machine.cpu.i size).mapError .memory

/-- What an instruction does, with the program counter past it. A jump or a skip is relative to
that counter. The answer is the machine that is left, with the fault if the instruction failed. -/
def execute (machine : Machine) (instruction : Instruction) : Machine × Option Fault :=
  let cpu := machine.cpu
  match instruction with
  | .sys _ => (machine, none)
  | .clear => ({ machine with screen := machine.screen.clear }, none)
  | .ret =>
      if cpu.stack.isEmpty then
        (machine, none)
      else
        match cpu.stack.pop with
        | (stack, .ok address) => (machine.withCpu { cpu with stack, pc := address }, none)
        | (stack, .error fault) => (machine.withCpu { cpu with stack }, some (.stack fault))
  | .jump target => (machine.withCpu { cpu with pc := target.val }, none)
  | .call target =>
      match cpu.stack.push cpu.pc with
      | (stack, none) => (machine.withCpu { cpu with stack, pc := target.val }, none)
      | (stack, some fault) => (machine.withCpu { cpu with stack }, some (.stack fault))
  | .skipEqualByte x byte => (machine.withCpu (cpu.skipIf (cpu.v.get x == byte)), none)
  | .skipUnequalByte x byte => (machine.withCpu (cpu.skipIf (cpu.v.get x != byte)), none)
  | .skipEqual x y => (machine.withCpu (cpu.skipIf (cpu.v.get x == cpu.v.get y)), none)
  | .loadByte x byte => (machine.withCpu (cpu.setV x byte), none)
  | .addByte x byte => (machine.withCpu (cpu.setV x (cpu.v.get x + byte)), none)
  | .load x y => (machine.withCpu (cpu.setV x (cpu.v.get y)), none)
  | .or x y => (machine.withCpu (cpu.setV x (cpu.v.get x ||| cpu.v.get y)), none)
  | .and x y => (machine.withCpu (cpu.setV x (cpu.v.get x &&& cpu.v.get y)), none)
  | .xor x y => (machine.withCpu (cpu.setV x (cpu.v.get x ^^^ cpu.v.get y)), none)
  | .add x y => (machine.withCpu (cpu.add x y), none)
  | .sub x y => (machine.withCpu (cpu.setDifference x (cpu.v.get x) (cpu.v.get y)), none)
  | .shiftRight x _ => (machine.withCpu (cpu.shiftRight x), none)
  | .subFrom x y => (machine.withCpu (cpu.setDifference x (cpu.v.get y) (cpu.v.get x)), none)
  | .shiftLeft x _ => (machine.withCpu (cpu.shiftLeft x), none)
  | .skipUnequal x y => (machine.withCpu (cpu.skipIf (cpu.v.get x != cpu.v.get y)), none)
  | .loadIndex target => (machine.withCpu { cpu with i := target.val }, none)
  | .jumpOffset target =>
      (machine.withCpu { cpu with pc := target.val + (cpu.v.get 0).toNat }, none)
  | .random x mask =>
      let (answer, random) := machine.random.draw 0 0xFF
      ({ machine with cpu := cpu.setV x (Cpu.lowByte answer &&& mask), random }, none)
  | .draw x y rows =>
      match machine.readAtIndex rows.val with
      | .error fault => (machine, some fault)
      | .ok sprite =>
          match machine.screen.draw (cpu.v.get x).toNat (cpu.v.get y).toNat sprite with
          | (screen, .ok collided) => ({ machine with cpu := cpu.setFlag collided, screen }, none)
          | (screen, .error fault) => ({ machine with screen }, some (.screen fault))
  | .skipDown x => machine.skipOnKey x true
  | .skipUp x => machine.skipOnKey x false
  | .readDelay x =>
      if 0 ≤ cpu.delay ∧ cpu.delay ≤ 0xFF then
        (machine.withCpu (cpu.setV x (UInt8.ofNat cpu.delay.toNat)), none)
      else
        (machine, some (.delayNotAByte cpu.delay))
  | .awaitKey x => (machine.awaitKey x, none)
  | .setDelay x => (machine.withCpu { cpu with delay := (cpu.v.get x).toNat }, none)
  | .setSound x => (machine.withCpu { cpu with sound := (cpu.v.get x).toNat }, none)
  | .addIndex x => (machine.withCpu { cpu with i := (cpu.i + (cpu.v.get x).toNat) % 0x10000 }, none)
  | .pointGlyph x =>
      (machine.withCpu { cpu with i := Font.glyphLocation ((cpu.v.get x).toNat % 0x10) }, none)
  | .storeDecimal x => machine.writeAtIndex (decimalDigits (cpu.v.get x))
  | .storeRegisters x => machine.writeAtIndex (cpu.v.toList.take (x.val + 1))
  | .loadRegisters x =>
      match machine.readAtIndex (x.val + 1) with
      | .error fault => (machine, some fault)
      | .ok block => (machine.withCpu (cpu.loadFront block), none)

/-- Executes the instruction of a word where the machine stands, without fetching it. -/
def executeOpcode (machine : Machine) (opcode : Int) : Machine × Option Fault :=
  match Instruction.decode opcode with
  | .ok decoded => machine.execute decoded.instruction
  | .error unknown => (machine, some (.opcode unknown))

/-! ### Cycles -/

/-- A fault, with the report of the crash if it halted a running program. -/
structure Failure where
  fault : Fault
  report : Option String
  deriving DecidableEq, Repr

/-- What an operation has to say beside the next state. -/
structure Reply where
  failure : Option Failure := none
  /-- The line written for the instruction. -/
  trace : Option String := none
  deriving DecidableEq, Repr

/-- The failure of a cycle of which this state is left. -/
def failWith (machine : Machine) (fault : Fault) (instruction : String) : Failure :=
  { fault, report := if fault.isCrash then some (machine.cpu.crashReport instruction) else none }

/-- The text that stands for an instruction that was not decoded. -/
def undecoded : String := "???"

/-- Executes an instruction that has been fetched and decoded. A report tells of the machine that
the failure left. -/
def dispatch (machine : Machine) (instruction : Instruction) : Machine × Reply :=
  let text := instruction.mnemonic
  let trace := if machine.tracing then some (machine.cpu.traceLine text) else none
  match machine.execute instruction with
  | (next, none) => (next, { trace })
  | (left, some fault) => (left, { failure := some (left.failWith fault text), trace })

/-- Fetches one instruction, moves past it and executes it, unless the machine is paused. -/
def cycle (machine : Machine) : Machine × Reply :=
  if machine.paused then (machine, {}) else
  let machine := machine.withCpu { machine.cpu with fetchedAt := machine.cpu.pc }
  match machine.memory.readWord machine.cpu.pc with
  | .error fault => (machine, { failure := some (machine.failWith (.memory fault) undecoded) })
  | .ok word =>
      let machine := machine.withCpu { machine.cpu.advance with opcode := word }
      match Instruction.decode word with
      | .error unknown =>
          (machine, { failure := some (machine.failWith (.opcode unknown) undecoded) })
      | .ok decoded => machine.dispatch decoded.instruction

/-! ### Other operations -/

def loadProgram (machine : Machine) (program : List UInt8) : Machine × Option Fault :=
  let (memory, fault) := machine.memory.loadProgram program
  ({ machine with memory }, fault.map .memory)

/-- Counts the timers down, unless the machine is paused. -/
def tick (machine : Machine) : Machine :=
  if machine.paused then machine else machine.withCpu machine.cpu.tick

/-- Starts over with the memory as it is. -/
def reset (machine : Machine) : Machine :=
  { machine with
    cpu := Cpu.initial Memory.programStart
    screen := machine.screen.clear
    keypad := Keypad.released }

def pause (machine : Machine) : Machine := { machine with paused := true }

def resume (machine : Machine) : Machine := { machine with paused := false }

def setKey (machine : Machine) (key : Int) (down : Bool) : Machine × Option Fault :=
  let (keypad, fault) := machine.keypad.setDown key down
  ({ machine with keypad }, fault.map .keypad)

def setKeys (machine : Machine) (states : List Bool) : Machine × Option Fault :=
  let (keypad, fault) := machine.keypad.setAll states
  ({ machine with keypad }, fault.map .keypad)

/-- The buzzer would be on. -/
def isSoundActive (machine : Machine) : Bool := 0 < machine.cpu.sound

end Machine

end Chip8
