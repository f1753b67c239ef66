import Chip8.Machine.Operation
import Chip8.Proofs.Access
import Chip8.Proofs.Drawing
import Chip8.Proofs.Encoding

/-!
What an instruction and a cycle do, said once for every later proof.

* `execute_call`, `execute_draw`, `execute_storeDecimal`, `execute_storeRegisters`,
  `execute_loadRegisters`, `execute_readDelay` — the instructions that can be refused, each by the
  condition that decides. All others succeed with the machine that `execute` names.
* `execute_ret`, `execute_skipDown`, `execute_skipUp` — the checks of these are always passed.
* `eq_of_execute_failed` — an instruction that fails has not touched the machine.
* `frame_execute` — the parts of the machine that an instruction touches.
* `outcome_cycle` — the five ways in which a cycle can end, each with the machine that it leaves
  and its reply.
* `cycle_of_execute`, `execute_of_cycle` — a cycle succeeds exactly as its instruction does.
* `frame_loadProgram`, `frame_setKey`, `frame_setKeys`, `frame_apply` — the parts that an operation
  from outside touches.
-/

namespace Chip8.Machine

open Memory (InRange)

/-! ### Checks

An instruction that can be refused is a check in front of a change. -/

section Check

variable {passes : Prop} [Decidable passes] {next refused left : Machine} {fault fault' : Fault}

theorem of_check_passed
    (passed : (if passes then (next, none) else (refused, some fault)) = (left, none)) :
    passes ∧ next = left := by
  split at passed
  next holds => exact ⟨holds, (Prod.mk.inj passed).1⟩
  next => cases passed

theorem eq_of_check_failed
    (failed : (if passes then (next, none) else (refused, some fault)) = (left, some fault')) :
    refused = left := by
  split at failed
  next => cases failed
  next => exact (Prod.mk.inj failed).1

end Check

/-! ### Instructions that can be refused -/

theorem writeAtIndex_eq (machine : Machine) (block : List UInt8) :
    machine.writeAtIndex block =
      if InRange machine.cpu.i block.length then
        ({ machine with
          memory := ⟨Memory.store machine.memory.cells machine.cpu.i.toNat block⟩ }, none)
      else (machine, some (.memory (.outOfRange machine.cpu.i block.length))) := by
  unfold writeAtIndex
  rw [Memory.writeBlock_eq]
  by_cases inside : InRange machine.cpu.i block.length
  · rw [if_pos inside, if_pos inside]
    rfl
  · rw [if_neg inside, if_neg inside]
    rfl

/-- The bytes that the index register points at. -/
def blockAtIndex (machine : Machine) (size : Nat) : List UInt8 :=
  (machine.memory.cells.extract machine.cpu.i.toNat (machine.cpu.i + size).toNat).toList

theorem readAtIndex_eq (machine : Machine) (size : Nat) :
    machine.readAtIndex size =
      if InRange machine.cpu.i size then .ok (machine.blockAtIndex size)
      else .error (.memory (.outOfRange machine.cpu.i size)) := by
  unfold readAtIndex
  rw [Memory.readBlock_eq]
  by_cases inside : InRange machine.cpu.i size
  · rw [if_pos inside, if_pos inside]
    rfl
  · rw [if_neg inside, if_neg inside]
    rfl

/-- A call leaves its return address on the stack, and is refused by a full one. -/
theorem execute_call (machine : Machine) (target : Address) :
    machine.execute (.call target) =
      if machine.cpu.stack.entries.length < machine.cpu.stack.capacity then
        (machine.withCpu { machine.cpu with
          pc := target.val
          stack := { machine.cpu.stack with
            entries := machine.cpu.pc :: machine.cpu.stack.entries } }, none)
      else (machine, some (.stack .overflow)) := by
  by_cases room : machine.cpu.stack.entries.length < machine.cpu.stack.capacity
  · rw [if_pos room]
    simp only [execute, CallStack.push_of_room room]
  · rw [if_neg room]
    simp only [execute, CallStack.push_of_full (Int.not_lt.mp room)]
    rfl

theorem screenWidth_pos : 0 < screenWidth := by decide

theorem screenHeight_pos : 0 < screenHeight := by decide

/-- The cells of the screen after a sprite has been drawn from memory, and whether one of them was
switched off. -/
def drawnCells (machine : Machine) (x y rows : Nibble) :
    Screen.Drawing screenWidth screenHeight :=
  (Screen.spriteCells screenWidth_pos screenHeight_pos (machine.cpu.v.get x).toNat
    (machine.cpu.v.get y).toNat (machine.blockAtIndex rows.val)).foldl Screen.toggle
      (machine.screen.cells, false)

/-- Only the sprite can be missing: on the machine's screen there is a cell for every bit. -/
theorem execute_draw (machine : Machine) (x y rows : Nibble) :
    machine.execute (.draw x y rows) =
      if InRange machine.cpu.i rows.val then
        ({ machine with
          cpu := machine.cpu.setFlag (machine.drawnCells x y rows).2
          screen := { cells := (machine.drawnCells x y rows).1, mark := .changed } }, none)
      else (machine, some (.memory (.outOfRange machine.cpu.i rows.val))) := by
  simp only [execute]
  rw [readAtIndex_eq]
  by_cases inside : InRange machine.cpu.i rows.val
  · rw [if_pos inside, if_pos inside]
    simp only [Screen.draw_eq screenWidth_pos screenHeight_pos]
    rfl
  · rw [if_neg inside, if_neg inside]

theorem execute_readDelay (machine : Machine) (x : Nibble) :
    machine.execute (.readDelay x) =
      if 0 ≤ machine.cpu.delay ∧ machine.cpu.delay ≤ 0xFF then
        (machine.withCpu (machine.cpu.setV x (UInt8.ofNat machine.cpu.delay.toNat)), none)
      else (machine, some (.delayNotAByte machine.cpu.delay)) :=
  rfl

theorem execute_storeDecimal (machine : Machine) (x : Nibble) :
    machine.execute (.storeDecimal x) =
      if InRange machine.cpu.i (3 : Nat) then
        ({ machine with
          memory := ⟨Memory.store machine.memory.cells machine.cpu.i.toNat
            (decimalDigits (machine.cpu.v.get x))⟩ }, none)
      else (machine, some (.memory (.outOfRange machine.cpu.i (3 : Nat)))) :=
  machine.writeAtIndex_eq (decimalDigits (machine.cpu.v.get x))

theorem execute_storeRegisters (machine : Machine) (x : Nibble) :
    machine.execute (.storeRegisters x) =
      if InRange machine.cpu.i (x.val + 1 : Nat) then
        ({ machine with
          memory := ⟨Memory.store machine.memory.cells machine.cpu.i.toNat
            (machine.cpu.v.toList.take (x.val + 1))⟩ }, none)
      else (machine, some (.memory (.outOfRange machine.cpu.i (x.val + 1 : Nat)))) := by
  have registers : (machine.cpu.v.toList.take (x.val + 1)).length = x.val + 1 := by
    rw [List.length_take, Vector.length_toList]
    omega
  have written := machine.writeAtIndex_eq (machine.cpu.v.toList.take (x.val + 1))
  rw [registers] at written
  exact written

theorem execute_loadRegisters (machine : Machine) (x : Nibble) :
    machine.execute (.loadRegisters x) =
      if InRange machine.cpu.i (x.val + 1 : Nat) then
        (machine.withCpu (machine.cpu.loadFront (machine.blockAtIndex (x.val + 1))), none)
      else (machine, some (.memory (.outOfRange machine.cpu.i (x.val + 1 : Nat)))) := by
  simp only [execute]
  rw [readAtIndex_eq]
  by_cases inside : InRange machine.cpu.i (x.val + 1 : Nat)
  · rw [if_pos inside, if_pos inside]
  · rw [if_neg inside, if_neg inside]

/-! ### Checks that are always passed -/

/-- A return takes the newest address, and does nothing if there is none. -/
theorem execute_ret (machine : Machine) :
    machine.execute .ret =
      match machine.cpu.stack.entries with
      | [] => (machine, none)
      | address :: rest =>
          (machine.withCpu { machine.cpu with
            pc := address
            stack := { machine.cpu.stack with entries := rest } }, none) := by
  cases entries : machine.cpu.stack.entries with
  | nil => simp only [execute, CallStack.isEmpty, entries, List.isEmpty_nil, if_true]
  | cons address rest =>
      simp only [execute, CallStack.isEmpty, CallStack.pop, entries, List.isEmpty_cons,
        Bool.false_eq_true, if_false]

theorem toNat_and_low (byte : UInt8) : (byte &&& 0xF).toNat = byte.toNat % 16 := by
  rw [UInt8.toNat_and]
  exact Nat.and_two_pow_sub_one_eq_mod byte.toNat 4

/-- The low four bits of a register name a key. -/
theorem skipOnKey_eq (machine : Machine) (x : Nibble) (down : Bool) :
    machine.skipOnKey x down =
      (machine.withCpu (machine.cpu.skipIf
        (machine.keypad.keys.get (Fin.ofNat 16 (machine.cpu.v.get x).toNat) == down)), none) := by
  have key : machine.keypad.isDown (machine.cpu.v.get x &&& 0xF).toNat =
      .ok (machine.keypad.keys.get (Fin.ofNat 16 (machine.cpu.v.get x).toNat)) := by
    rw [toNat_and_low]
    exact machine.keypad.isDown_val (Fin.ofNat 16 (machine.cpu.v.get x).toNat)
  unfold skipOnKey
  rw [key]

theorem execute_skipDown (machine : Machine) (x : Nibble) :
    machine.execute (.skipDown x) =
      (machine.withCpu (machine.cpu.skipIf
        (machine.keypad.keys.get (Fin.ofNat 16 (machine.cpu.v.get x).toNat) == true)), none) :=
  machine.skipOnKey_eq x true

theorem execute_skipUp (machine : Machine) (x : Nibble) :
    machine.execute (.skipUp x) =
      (machine.withCpu (machine.cpu.skipIf
        (machine.keypad.keys.get (Fin.ofNat 16 (machine.cpu.v.get x).toNat) == false)), none) :=
  machine.skipOnKey_eq x false

/-! ### Frame -/

/-- An instruction that fails has not touched the machine: its checks come before its writes. -/
theorem eq_of_execute_failed {machine left : Machine} {instruction : Instruction} {fault : Fault}
    (failed : machine.execute instruction = (left, some fault)) : left = machine := by
  cases instruction with
  | call _ | draw _ _ _ | readDelay _ | storeDecimal _ | storeRegisters _ | loadRegisters _ =>
      simp only [execute_call, execute_draw, execute_readDelay, execute_storeDecimal,
        execute_storeRegisters, execute_loadRegisters] at failed
      exact (eq_of_check_failed failed).symm
  | ret =>
      rw [execute_ret] at failed
      split at failed <;> cases failed
  | skipDown x => rw [execute_skipDown] at failed; cases failed
  | skipUp x => rw [execute_skipUp] at failed; cases failed
  | _ => cases failed

/-- An instruction touches the processor and the random source, or the memory, or the processor and
the screen, which it marks as changed. -/
theorem frame_execute {machine next : Machine} {instruction : Instruction}
    (succeeded : machine.execute instruction = (next, none)) :
    (∃ cpu random, next = { machine with cpu, random }) ∨
      (∃ memory, next = { machine with memory }) ∨
      ∃ cpu cells, next = { machine with cpu, screen := { cells, mark := .changed } } := by
  cases instruction with
  | clear => exact .inr (.inr ⟨machine.cpu, _, (Prod.mk.inj succeeded).1.symm⟩)
  | draw x y rows =>
      rw [execute_draw] at succeeded
      obtain ⟨-, rfl⟩ := of_check_passed succeeded
      exact .inr (.inr ⟨_, _, rfl⟩)
  | storeDecimal _ | storeRegisters _ =>
      simp only [execute_storeDecimal, execute_storeRegisters] at succeeded
      obtain ⟨-, rfl⟩ := of_check_passed succeeded
      exact .inr (.inl ⟨_, rfl⟩)
  | ret =>
      rw [execute_ret] at succeeded
      split at succeeded
      · exact .inl ⟨machine.cpu, machine.random, (Prod.mk.inj succeeded).1.symm⟩
      · exact .inl ⟨_, machine.random, (Prod.mk.inj succeeded).1.symm⟩
  | call _ | readDelay _ | loadRegisters _ =>
      simp only [execute_call, execute_readDelay, execute_loadRegisters] at succeeded
      obtain ⟨-, rfl⟩ := of_check_passed succeeded
      exact .inl ⟨_, machine.random, rfl⟩
  | awaitKey x =>
      simp only [execute, awaitKey] at succeeded
      split at succeeded
      · exact .inl ⟨_, machine.random, (Prod.mk.inj succeeded).1.symm⟩
      · exact .inl ⟨_, machine.random, (Prod.mk.inj succeeded).1.symm⟩
  | skipDown x =>
      rw [execute_skipDown] at succeeded
      exact .inl ⟨_, machine.random, (Prod.mk.inj succeeded).1.symm⟩
  | skipUp x =>
      rw [execute_skipUp] at succeeded
      exact .inl ⟨_, machine.random, (Prod.mk.inj succeeded).1.symm⟩
  | random x mask => exact .inl ⟨_, _, (Prod.mk.inj succeeded).1.symm⟩
  | sys target => exact .inl ⟨machine.cpu, machine.random, (Prod.mk.inj succeeded).1.symm⟩
  | _ => exact .inl ⟨_, machine.random, (Prod.mk.inj succeeded).1.symm⟩

/-! ### Cycles -/

/-- The word at the program counter. -/
def nextWord (machine : Machine) : Nat := machine.memory.wordAt machine.cpu.pc.toNat

/-- The instruction that the next cycle executes, if a word can be fetched and is one. -/
def nextInstruction? (machine : Machine) : Option Instruction :=
  if InRange machine.cpu.pc 2 then Instruction.ofWord? machine.nextWord else none

/-- What a cycle leaves that found no word: it has noted where it looked for one. -/
def unfetched (machine : Machine) : Machine :=
  machine.withCpu { machine.cpu with fetchedAt := machine.cpu.pc }

/-- The machine as an instruction finds it: its word is noted, and the program counter is past
it. -/
def fetched (machine : Machine) : Machine :=
  machine.withCpu { machine.cpu with
    fetchedAt := machine.cpu.pc
    pc := machine.cpu.pc + Opcode.width
    opcode := machine.nextWord }

/-- The line that is written for an instruction, if lines are written. -/
def traceOf (machine : Machine) (instruction : Instruction) : Option String :=
  if machine.tracing then some (machine.cpu.traceLine instruction.mnemonic) else none

/-- The ways in which a cycle can end, with the machine that it leaves and its reply. -/
inductive Outcome (machine : Machine) : Machine × Reply → Prop where
  | paused (paused : machine.paused = true) : Outcome machine (machine, {})
  | unfetched (running : machine.paused = false) (outside : ¬ InRange machine.cpu.pc 2) :
      Outcome machine (machine.unfetched,
        { failure := some (machine.unfetched.failWith
            (.memory (.outOfRange machine.cpu.pc 2)) undecoded) })
  | undecoded (running : machine.paused = false) (inside : InRange machine.cpu.pc 2)
      (unknown : Instruction.ofWord? machine.nextWord = none) :
      Outcome machine (machine.fetched,
        { failure := some (machine.fetched.failWith (.opcode ⟨machine.nextWord⟩) undecoded) })
  | refused {instruction : Instruction} {fault : Fault}
      (running : machine.paused = false) (inside : InRange machine.cpu.pc 2)
      (known : Instruction.ofWord? machine.nextWord = some instruction)
      (failed : machine.fetched.execute instruction = (machine.fetched, some fault)) :
      Outcome machine (machine.fetched,
        { failure := some (machine.fetched.failWith fault instruction.mnemonic)
          trace := machine.fetched.traceOf instruction })
  | executed {instruction : Instruction} {next : Machine}
      (running : machine.paused = false) (inside : InRange machine.cpu.pc 2)
      (known : Instruction.ofWord? machine.nextWord = some instruction)
      (succeeded : machine.fetched.execute instruction = (next, none)) :
      Outcome machine (next, { trace := machine.fetched.traceOf instruction })

/-- A cycle that finds a word executes its instruction. -/
theorem cycle_of_inRange {machine : Machine} (running : machine.paused = false)
    (inside : InRange machine.cpu.pc 2) :
    machine.cycle =
      match Instruction.ofWord? machine.nextWord with
      | some instruction => machine.fetched.dispatch instruction
      | none =>
          (machine.fetched, { failure := some (machine.fetched.failWith
            (.opcode ⟨machine.nextWord⟩) undecoded) }) := by
  have word := machine.memory.readWord_eq machine.cpu.pc
  rw [if_pos inside] at word
  have small : machine.nextWord < 0x10000 := machine.memory.wordAt_lt machine.cpu.pc.toNat
  have decoded := Instruction.decode_of_lt small
  unfold cycle Instruction.ofWord?
  rw [running, if_neg Bool.false_ne_true]
  simp only [withCpu, word]
  simp only [nextWord] at decoded ⊢
  rw [decoded]
  cases Instruction.operation? (machine.memory.wordAt machine.cpu.pc.toNat) with
  | none => rfl
  | some kind => rfl

/-- A cycle ends in one of the ways of `Outcome`. -/
theorem outcome_cycle (machine : Machine) : Outcome machine machine.cycle := by
  cases running : machine.paused with
  | true =>
      unfold cycle
      rw [if_pos running]
      exact .paused running
  | false =>
      by_cases inside : InRange machine.cpu.pc 2
      · rw [cycle_of_inRange running inside]
        cases known : Instruction.ofWord? machine.nextWord with
        | none => exact .undecoded running inside known
        | some instruction =>
            dsimp only [dispatch]
            rcases executed : machine.fetched.execute instruction with ⟨next, _ | fault⟩
            · exact .executed running inside known executed
            · obtain rfl := eq_of_execute_failed executed
              exact .refused running inside known executed
      · have word := machine.memory.readWord_eq machine.cpu.pc
        rw [if_neg inside] at word
        unfold cycle
        rw [running, if_neg Bool.false_ne_true]
        simp only [withCpu, word]
        exact .unfetched running inside

theorem nextInstruction?_eq_some_iff {machine : Machine} {instruction : Instruction} :
    machine.nextInstruction? = some instruction ↔
      InRange machine.cpu.pc 2 ∧ Instruction.ofWord? machine.nextWord = some instruction := by
  unfold nextInstruction?
  split <;> simp [*]

/-- A running machine dispatches its next instruction. -/
theorem cycle_of_nextInstruction? {machine : Machine} {instruction : Instruction}
    (running : machine.paused = false) (found : machine.nextInstruction? = some instruction) :
    machine.cycle = machine.fetched.dispatch instruction := by
  obtain ⟨inside, known⟩ := nextInstruction?_eq_some_iff.mp found
  rw [cycle_of_inRange running inside, known]

/-- A running machine takes its next instruction as a whole, if it is not refused. -/
theorem cycle_of_execute {machine next : Machine} {instruction : Instruction}
    (running : machine.paused = false) (found : machine.nextInstruction? = some instruction)
    (executed : machine.fetched.execute instruction = (next, none)) :
    machine.cycle = (next, { trace := machine.fetched.traceOf instruction }) := by
  rw [cycle_of_nextInstruction? running found]
  simp only [dispatch, executed]
  rfl

/-- A cycle that succeeds has executed the next instruction. -/
theorem execute_of_cycle {machine : Machine} (running : machine.paused = false)
    (succeeded : machine.cycle.2.failure = none) :
    ∃ instruction, machine.nextInstruction? = some instruction ∧
      machine.fetched.execute instruction = (machine.cycle.1, none) := by
  have outcome := machine.outcome_cycle
  generalize machine.cycle = ended at outcome succeeded ⊢
  cases outcome with
  | paused paused => rw [running] at paused; cases paused
  | unfetched _ _ | undecoded _ _ _ | refused _ _ _ _ => cases succeeded
  | executed _ inside known executed =>
      exact ⟨_, nextInstruction?_eq_some_iff.mpr ⟨inside, known⟩, executed⟩

/-! ### Other operations -/

/-- An operation that writes settles the machine that it leaves. -/
theorem settle_fst (settled : Machine × Option Fault) : (settle settled).1 = settled.1 := by
  rcases settled with ⟨left, _ | fault⟩
  · rfl
  · rfl

/-- Loading a program, or being refused one, touches the memory alone. -/
theorem frame_loadProgram (machine : Machine) (program : List UInt8) :
    ∃ memory, (machine.apply (.loadProgram program)).1 = { machine with memory } :=
  ⟨_, settle_fst _⟩

/-- Setting a key, or naming one that does not exist, touches the keypad alone. -/
theorem frame_setKey (machine : Machine) (key : Int) (down : Bool) :
    ∃ keypad, (machine.apply (.setKey key down)).1 = { machine with keypad } :=
  ⟨_, settle_fst _⟩

theorem frame_setKeys (machine : Machine) (states : List Bool) :
    ∃ keypad, (machine.apply (.setKeys states)).1 = { machine with keypad } :=
  ⟨_, settle_fst _⟩

/-- Sixteen key states are always taken. -/
theorem setKeys_toList (machine : Machine) (states : KeyStates) :
    machine.setKeys states.toList = ({ machine with keypad := ⟨states⟩ }, none) := by
  have taken : machine.keypad.setAll states.toList = (⟨states⟩, none) := by
    unfold Keypad.setAll
    rw [dif_pos states.length_toList]
    rfl
  unfold setKeys
  rw [taken]
  rfl

/-- Beside cycles, ticks and resets, no operation touches the processor, the screen or the random
source. -/
theorem frame_apply (machine : Machine) (operation : Operation) :
    operation = .cycle ∨ operation = .tick ∨ operation = .reset ∨
      ∃ memory keypad paused,
        (machine.apply operation).1 = { machine with memory, keypad, paused } := by
  cases operation with
  | cycle => exact .inl rfl
  | tick => exact .inr (.inl rfl)
  | reset => exact .inr (.inr (.inl rfl))
  | pause => exact .inr (.inr (.inr ⟨machine.memory, machine.keypad, true, rfl⟩))
  | resume => exact .inr (.inr (.inr ⟨machine.memory, machine.keypad, false, rfl⟩))
  | loadProgram program =>
      obtain ⟨memory, framed⟩ := machine.frame_loadProgram program
      exact .inr (.inr (.inr ⟨memory, machine.keypad, machine.paused, framed⟩))
  | setKey key down =>
      obtain ⟨keypad, framed⟩ := machine.frame_setKey key down
      exact .inr (.inr (.inr ⟨machine.memory, keypad, machine.paused, framed⟩))
  | setKeys states =>
      obtain ⟨keypad, framed⟩ := machine.frame_setKeys states
      exact .inr (.inr (.inr ⟨machine.memory, keypad, machine.paused, framed⟩))

end Chip8.Machine
