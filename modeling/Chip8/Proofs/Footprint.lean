import Chip8.Proofs.Bounds

/-!
What an instruction may change, and that it changes nothing else.

* `Instruction.footprint` — the registers, the timers, the call stack, the memory, the screen and
  the random source, as far as an instruction may touch them. The program counter is left out: every
  instruction moves it.
* `confined_execute` — executing an instruction changes nothing outside its footprint.
* `footprint_of_cycle` — the same for a whole cycle, through fetching and decoding.
-/

namespace Chip8

/-! ### Footprints -/

/-- What becomes of the return addresses, oldest first. -/
inductive StackEffect where
  | kept
  | pushed
  | popped
  deriving DecidableEq, Repr

def StackEffect.Relates : StackEffect → List Int → List Int → Prop
  | .kept, before, after => after = before
  | .pushed, before, after => ∃ address, after = before ++ [address]
  | .popped, before, after => after = before.dropLast

/-- The parts of a machine that may change. What is not mentioned may not. -/
structure Footprint where
  /-- These registers. -/
  registers : Nibble → Prop := fun _ => False
  index : Bool := false
  delay : Bool := false
  sound : Bool := false
  stack : StackEffect := .kept
  /-- So many bytes of memory from the one on that the index register points at. -/
  stored : Nat := 0
  /-- The picture and its mark. -/
  screen : Bool := false
  random : Bool := false

/-- What an instruction may change beside the program counter. -/
def Instruction.footprint : Instruction → Footprint
  | .loadByte x _ | .addByte x _ | .load x _ | .or x _ | .and x _ | .xor x _ | .readDelay x
  | .awaitKey x => { registers := fun register => register = x }
  | .random x _ => { registers := fun register => register = x, random := true }
  | .add x _ | .sub x _ | .shiftRight x _ | .subFrom x _ | .shiftLeft x _ =>
      { registers := fun register => register = x ∨ register = 0xF }
  | .loadRegisters x => { registers := fun register => register.val ≤ x.val }
  | .draw _ _ _ => { registers := fun register => register = 0xF, screen := true }
  | .clear => { screen := true }
  | .loadIndex _ | .addIndex _ | .pointGlyph _ => { index := true }
  | .setDelay _ => { delay := true }
  | .setSound _ => { sound := true }
  | .call _ => { stack := .pushed }
  | .ret => { stack := .popped }
  | .storeDecimal _ => { stored := 3 }
  | .storeRegisters x => { stored := x.val + 1 }
  | .sys _ | .jump _ | .jumpOffset _ | .skipEqualByte _ _ | .skipUnequalByte _ _ | .skipEqual _ _
  | .skipUnequal _ _ | .skipDown _ | .skipUp _ => {}

namespace Machine

open Memory (InRange)

/-- From one machine to the next, nothing changed outside the footprint. -/
structure Confined (footprint : Footprint) (before after : Machine) : Prop where
  registers : ∀ register, ¬ footprint.registers register →
    after.cpu.v.get register = before.cpu.v.get register
  index : footprint.index = false → after.cpu.i = before.cpu.i
  delay : footprint.delay = false → after.cpu.delay = before.cpu.delay
  sound : footprint.sound = false → after.cpu.sound = before.cpu.sound
  stack : footprint.stack.Relates before.cpu.stack.toList after.cpu.stack.toList
  memory : ∀ address : Nat,
    ¬ (before.cpu.i ≤ address ∧ address < before.cpu.i + footprint.stored) →
      after.memory.cell address = before.memory.cell address
  screen : footprint.screen = false → after.screen = before.screen
  random : footprint.random = false → after.random = before.random
  keypad : after.keypad = before.keypad
  paused : after.paused = before.paused
  tracing : after.tracing = before.tracing

variable {machine : Machine}

theorem Confined.refl (machine : Machine) : Confined {} machine machine where
  registers := fun _ _ => rfl
  index := fun _ => rfl
  delay := fun _ => rfl
  sound := fun _ => rfl
  stack := rfl
  memory := fun _ _ => rfl
  screen := fun _ => rfl
  random := fun _ => rfl
  keypad := rfl
  paused := rfl
  tracing := rfl

/-! ### Instructions that write registers -/

theorem confined_withV {registers : Nibble → Prop} {v : Vector UInt8 16}
    (kept : ∀ register, ¬ registers register → v.get register = machine.cpu.v.get register) :
    Confined { registers } machine (machine.withCpu { machine.cpu with v }) :=
  { Confined.refl machine with registers := kept }

theorem confined_setV (x : Nibble) (byte : UInt8) :
    Confined { registers := fun register => register = x } machine
      (machine.withCpu (machine.cpu.setV x byte)) := by
  refine confined_withV ?_
  intro register other
  have written := machine.cpu.get_setV x register byte
  rw [if_neg other] at written
  exact written

/-- Arithmetic writes its result and then register F. -/
theorem confined_setFlag (x : Nibble) (byte : UInt8) (flag : Bool) :
    Confined { registers := fun register => register = x ∨ register = 0xF } machine
      (machine.withCpu ((machine.cpu.setV x byte).setFlag flag)) := by
  refine confined_withV ?_
  intro register other
  obtain ⟨notResult, notFlag⟩ := not_or.mp other
  have result := machine.cpu.get_setV x register byte
  have written := (machine.cpu.setV x byte).get_setV 0xF register (if flag then 1 else 0)
  rw [if_neg notResult] at result
  rw [if_neg notFlag, result] at written
  exact written

/-- A block of `x + 1` bytes covers the registers up to `x`. -/
theorem confined_loadFront (x : Nibble) {block : List UInt8} (size : block.length = x.val + 1) :
    Confined { registers := fun register => register.val ≤ x.val } machine
      (machine.withCpu (machine.cpu.loadFront block)) := by
  refine confined_withV ?_
  intro register behind
  have loaded := machine.cpu.get_loadFront block register
  rw [List.getElem?_eq_none (by omega)] at loaded
  exact loaded

/-! ### Instructions that move the program counter -/

theorem confined_skipIf (condition : Bool) :
    Confined {} machine (machine.withCpu (machine.cpu.skipIf condition)) := by
  cases condition with
  | false => exact Confined.refl machine
  | true => exact { Confined.refl machine with }

/-- Waiting for a key writes a register only when a key is down. -/
theorem confined_awaitKey (x : Nibble) :
    Confined { registers := fun register => register = x } machine (machine.awaitKey x) := by
  unfold awaitKey
  cases machine.keypad.firstDown with
  | some key => exact confined_setV x _
  | none => exact { Confined.refl machine with registers := fun _ _ => rfl }

theorem confined_withPc (pc : Int) :
    Confined {} machine (machine.withCpu { machine.cpu with pc }) :=
  { Confined.refl machine with }

theorem confined_call (pc address : Int) :
    Confined { stack := .pushed } machine (machine.withCpu { machine.cpu with
      pc, stack := { machine.cpu.stack with entries := address :: machine.cpu.stack.entries } }) :=
  { Confined.refl machine with
    stack := ⟨address, List.reverse_cons⟩ }

/-- A return without a caller leaves the empty stack empty. -/
theorem confined_ret {next : Machine} (succeeded : machine.execute .ret = (next, none)) :
    Confined { stack := .popped } machine next := by
  rw [execute_ret] at succeeded
  cases entries : machine.cpu.stack.entries with
  | nil =>
      have empty : machine.cpu.stack.toList = [] := by rw [CallStack.toList, entries]; rfl
      rw [entries] at succeeded
      cases succeeded
      exact { Confined.refl machine with
        stack := by rw [empty]; rfl }
  | cons address rest =>
      have split : machine.cpu.stack.toList = rest.reverse ++ [address] := by
        rw [CallStack.toList, entries, List.reverse_cons]
      rw [entries] at succeeded
      cases succeeded
      exact { Confined.refl machine with
        stack := by rw [split]; exact List.dropLast_concat.symm }

/-! ### Instructions that access memory -/

theorem length_blockAtIndex {size : Nat} (inside : InRange machine.cpu.i size) :
    (machine.blockAtIndex size).length = size := by
  have nonneg : 0 ≤ machine.cpu.i := inside.1
  have fits := Memory.end_le_of_inRange inside
  simp only [blockAtIndex, Vector.length_toList]
  omega

theorem confined_store (block : List UInt8) (inside : InRange machine.cpu.i block.length) :
    Confined { stored := block.length } machine { machine with
      memory := ⟨Memory.store machine.memory.cells machine.cpu.i.toNat block⟩ } :=
  { Confined.refl machine with
    memory := by
      intro address outside
      have nonneg : 0 ≤ machine.cpu.i := inside.1
      have stored := machine.memory.cell_store (Memory.end_le_of_inRange inside) address
      simp only at outside
      rw [if_neg (by omega)] at stored
      exact stored }

/-! ### Every instruction -/

/-- Executing an instruction changes nothing outside its footprint. -/
theorem confined_execute {next : Machine} {instruction : Instruction}
    (succeeded : machine.execute instruction = (next, none)) :
    Confined instruction.footprint machine next := by
  cases instruction with
  | sys _ => cases succeeded; exact Confined.refl machine
  | jump _ | jumpOffset _ => cases succeeded; exact confined_withPc _
  | skipEqualByte _ _ | skipUnequalByte _ _ | skipEqual _ _ | skipUnequal _ _ =>
      cases succeeded
      exact confined_skipIf _
  | skipDown x =>
      rw [execute_skipDown] at succeeded
      cases succeeded
      exact confined_skipIf _
  | skipUp x =>
      rw [execute_skipUp] at succeeded
      cases succeeded
      exact confined_skipIf _
  | loadByte x _ | addByte x _ | load x _ | or x _ | and x _ | xor x _ =>
      cases succeeded
      exact confined_setV x _
  | add x _ | sub x _ | subFrom x _ | shiftRight x _ | shiftLeft x _ =>
      cases succeeded
      exact confined_setFlag x _ _
  | random x mask =>
      cases succeeded
      exact { confined_setV x _ with random := fun untouched => by cases untouched }
  | awaitKey x => cases succeeded; exact confined_awaitKey x
  | readDelay x =>
      rw [execute_readDelay] at succeeded
      obtain ⟨-, rfl⟩ := of_check_passed succeeded
      exact confined_setV x _
  | loadIndex _ | addIndex _ | pointGlyph _ =>
      cases succeeded
      exact { Confined.refl machine with
        index := fun untouched => by cases untouched }
  | setDelay _ =>
      cases succeeded
      exact { Confined.refl machine with
        delay := fun untouched => by cases untouched }
  | setSound _ =>
      cases succeeded
      exact { Confined.refl machine with
        sound := fun untouched => by cases untouched }
  | clear =>
      cases succeeded
      exact { Confined.refl machine with
        screen := fun untouched => by cases untouched }
  | draw x y rows =>
      rw [execute_draw] at succeeded
      obtain ⟨-, rfl⟩ := of_check_passed succeeded
      exact { confined_setV 0xF _ with screen := fun untouched => by cases untouched }
  | call target =>
      rw [execute_call] at succeeded
      obtain ⟨-, rfl⟩ := of_check_passed succeeded
      exact confined_call _ _
  | ret => exact confined_ret succeeded
  | storeDecimal x =>
      rw [execute_storeDecimal] at succeeded
      obtain ⟨inside, rfl⟩ := of_check_passed succeeded
      exact confined_store (decimalDigits (machine.cpu.v.get x)) inside
  | storeRegisters x =>
      have registers : (machine.cpu.v.toList.take (x.val + 1)).length = x.val + 1 := by
        rw [List.length_take, Vector.length_toList]
        omega
      rw [execute_storeRegisters] at succeeded
      obtain ⟨inside, rfl⟩ := of_check_passed succeeded
      have stored := confined_store (machine.cpu.v.toList.take (x.val + 1))
        (registers.symm ▸ inside)
      rw [registers] at stored
      exact stored
  | loadRegisters x =>
      rw [execute_loadRegisters] at succeeded
      obtain ⟨inside, rfl⟩ := of_check_passed succeeded
      exact confined_loadFront x (length_blockAtIndex inside)

/-- A cycle that succeeds executes one instruction, and beside the program counter and what is noted
of the fetch it changes nothing outside the footprint of that instruction. -/
theorem footprint_of_cycle (running : machine.paused = false)
    (succeeded : machine.cycle.2.failure = none) :
    ∃ instruction, machine.nextInstruction? = some instruction ∧
      Confined instruction.footprint machine machine.cycle.1 := by
  obtain ⟨instruction, found, executed⟩ := execute_of_cycle running succeeded
  have confined := confined_execute executed
  exact ⟨instruction, found, { confined with }⟩

/-- A store of two registers into the last two bytes of memory: `LD V0, 0x07`, `LD V1, 0x09`,
`LD I, 0xffe`, `LD [I], V1`. -/
theorem footprint_of_cycle_at_last_bytes :
    let machine := afterCycles [0x60, 0x07, 0x61, 0x09, 0xAF, 0xFE, 0xF1, 0x55] 3
    machine.cycle.2.failure = none ∧ machine.cycle.1.memory.cell 0xFFE = 7 ∧
      machine.cycle.1.memory.cell 0xFFF = 9 ∧ Confined { stored := 2 } machine machine.cycle.1 := by
  have facts :
      let machine := afterCycles [0x60, 0x07, 0x61, 0x09, 0xAF, 0xFE, 0xF1, 0x55] 3
      machine.paused = false ∧ machine.cycle.2.failure = none ∧
        machine.nextInstruction? = some (.storeRegisters 1) ∧
        machine.cycle.1.memory.cell 0xFFE = 7 ∧ machine.cycle.1.memory.cell 0xFFF = 9 := by
    decide +kernel
  generalize afterCycles [0x60, 0x07, 0x61, 0x09, 0xAF, 0xFE, 0xF1, 0x55] 3 = machine at facts ⊢
  obtain ⟨running, succeeded, stores, first, last⟩ := facts
  obtain ⟨instruction, found, confined⟩ := footprint_of_cycle running succeeded
  obtain rfl := Option.some.inj (stores.symm.trans found)
  exact ⟨succeeded, first, last, confined⟩

end Machine

end Chip8
