import Chip8.Proofs.Bounds

/-!
Where a program goes on.

The program counter is past an instruction before that is executed, so jumps replace it, skips move
it once more, and an instruction that waits for a key moves it back. The move back is cut to twelve
bits; since no word can be fetched behind the memory, it undoes the move exactly.

* `successor` — the place of the next instruction, by an instruction and the state that it is found
  in.
* `pc_of_execute` — executing an instruction leads to its successor.
* `pc_of_cycle` — the same for a whole cycle, through fetching and decoding. Tests of the same
  operands in opposite senses lead to different places.
-/

namespace Chip8

/-- The test of the same operands in the opposite sense. -/
def Instruction.opposite? : Instruction → Option Instruction
  | .skipEqualByte x byte => some (.skipUnequalByte x byte)
  | .skipUnequalByte x byte => some (.skipEqualByte x byte)
  | .skipEqual x y => some (.skipUnequal x y)
  | .skipUnequal x y => some (.skipEqual x y)
  | .skipDown x => some (.skipUp x)
  | .skipUp x => some (.skipDown x)
  | _ => none

namespace Machine

open Memory (InRange)

variable {machine : Machine}

/-! ### Places -/

/-- Behind the next instruction, or behind the one after it if that is skipped. -/
def behind (machine : Machine) (skipped : Prop) [Decidable skipped] : Int :=
  if skipped then machine.cpu.pc + 4 else machine.cpu.pc + 2

/-- The state of the key that a register names by its low digit. -/
def namedKey (machine : Machine) (x : Nibble) : Bool :=
  machine.keypad.keys.get (Fin.ofNat 16 (machine.cpu.v.get x).toNat)

/-- Where the program goes on after the next instruction. -/
def successor (machine : Machine) : Instruction → Int
  | .jump target | .call target => target.val
  | .jumpOffset target => target.val + (machine.cpu.v.get 0).toNat
  | .ret => machine.cpu.stack.toList.getLast?.getD (machine.cpu.pc + 2)
  | .skipEqualByte x byte => machine.behind (machine.cpu.v.get x = byte)
  | .skipUnequalByte x byte => machine.behind (machine.cpu.v.get x ≠ byte)
  | .skipEqual x y => machine.behind (machine.cpu.v.get x = machine.cpu.v.get y)
  | .skipUnequal x y => machine.behind (machine.cpu.v.get x ≠ machine.cpu.v.get y)
  | .skipDown x => machine.behind (machine.namedKey x = true)
  | .skipUp x => machine.behind (machine.namedKey x = false)
  | .awaitKey _ => if machine.keypad.Idle then machine.cpu.pc else machine.cpu.pc + 2
  | _ => machine.cpu.pc + 2

/-- One of the two places is behind the next instruction and the other behind the one after it. -/
def Apart (machine : Machine) (first second : Int) : Prop :=
  (first = machine.cpu.pc + 2 ∧ second = machine.cpu.pc + 4) ∨
    (first = machine.cpu.pc + 4 ∧ second = machine.cpu.pc + 2)

theorem apart_behind {other : Machine} (place : other.cpu.pc = machine.cpu.pc)
    {first second : Prop} [Decidable first] [Decidable second] (opposed : second ↔ ¬ first) :
    machine.Apart (machine.behind first) (other.behind second) := by
  unfold behind
  rw [place]
  by_cases holds : first
  · rw [if_pos holds, if_neg (fun also => opposed.mp also holds)]
    exact .inr ⟨rfl, rfl⟩
  · rw [if_neg holds, if_pos (opposed.mpr holds)]
    exact .inl ⟨rfl, rfl⟩

/-- Tests look at the registers and the keys alone, so in two machines that agree there, tests in
opposite senses lead to different places. -/
theorem apart_successor {other : Machine} {instruction opposite : Instruction}
    (opposed : instruction.opposite? = some opposite) (place : other.cpu.pc = machine.cpu.pc)
    (registers : other.cpu.v = machine.cpu.v) (keys : other.keypad = machine.keypad) :
    machine.Apart (machine.successor instruction) (other.successor opposite) := by
  have named (x : Nibble) : other.namedKey x = machine.namedKey x := by
    unfold namedKey
    rw [registers, keys]
  cases instruction with
  | skipEqualByte x byte | skipEqual x y =>
      cases opposed
      exact apart_behind place (by rw [registers])
  | skipUnequalByte x byte | skipUnequal x y =>
      cases opposed
      exact apart_behind place (by rw [registers]; exact Decidable.not_not.symm)
  | skipDown x =>
      cases opposed
      exact apart_behind place (by rw [named, Bool.not_eq_true])
  | skipUp x =>
      cases opposed
      exact apart_behind place (by rw [named, Bool.not_eq_false])
  | _ => cases opposed

/-! ### Executing -/

/-- A skip is a second move past an instruction. -/
theorem pc_of_skipIf {condition : Bool} {skipped : Prop} [Decidable skipped]
    (decides : condition = true ↔ skipped) :
    (machine.fetched.cpu.skipIf condition).pc = machine.behind skipped := by
  unfold behind
  cases condition with
  | false => exact (if_neg (mt decides.mpr Bool.false_ne_true)).symm
  | true =>
      rw [if_pos (decides.mp rfl)]
      exact Int.add_assoc machine.cpu.pc 2 2

/-- Moving back undoes the move past an instruction that could be fetched. -/
theorem pc_of_rewind (inside : InRange machine.cpu.pc 2) :
    machine.fetched.cpu.rewind.pc = machine.cpu.pc := by
  have low : 0 ≤ machine.cpu.pc := inside.1
  have high := (Memory.inRange_iff_of_nonneg 2 low).mp inside
  have width : (Opcode.width : Int) = 2 := rfl
  show (machine.cpu.pc + Opcode.width - Opcode.width) % 0x1000 = machine.cpu.pc
  omega

/-- A return goes to the newest entry, which is the last of those from the oldest on. -/
theorem pc_of_ret {next : Machine} (succeeded : machine.fetched.execute .ret = (next, none)) :
    next.cpu.pc = machine.successor .ret := by
  rw [execute_ret] at succeeded
  have listed : machine.cpu.stack.toList.getLast? = machine.cpu.stack.entries.head? :=
    List.getLast?_reverse
  unfold successor
  rw [listed]
  cases entries : machine.cpu.stack.entries with
  | nil =>
      rw [show machine.fetched.cpu.stack.entries = [] from entries] at succeeded
      cases succeeded
      rfl
  | cons address rest =>
      rw [show machine.fetched.cpu.stack.entries = address :: rest from entries] at succeeded
      cases succeeded
      rfl

/-- Without a key that is down, an instruction that waits for one moves back to itself. -/
theorem execute_awaitKey_of_idle (x : Nibble) (idle : machine.keypad.Idle) :
    machine.execute (.awaitKey x) = (machine.withCpu machine.cpu.rewind, none) := by
  simp only [execute, awaitKey, Keypad.firstDown_eq_none_iff.mpr idle]

theorem execute_awaitKey_of_down (x : Nibble) {key : Fin 16}
    (lowest : machine.keypad.firstDown = some key) :
    machine.execute (.awaitKey x) =
      (machine.withCpu (machine.cpu.setV x (UInt8.ofNat key.val)), none) := by
  simp only [execute, awaitKey, lowest]

theorem pc_of_awaitKey {next : Machine} {x : Nibble} (inside : InRange machine.cpu.pc 2)
    (succeeded : machine.fetched.execute (.awaitKey x) = (next, none)) :
    next.cpu.pc = machine.successor (.awaitKey x) := by
  unfold successor
  by_cases idle : machine.keypad.Idle
  · rw [execute_awaitKey_of_idle x (show machine.fetched.keypad.Idle from idle)] at succeeded
    cases succeeded
    rw [if_pos idle]
    exact pc_of_rewind inside
  · obtain ⟨key, lowest⟩ :=
      Option.ne_none_iff_exists'.mp (mt Keypad.firstDown_eq_none_iff.mp idle)
    rw [execute_awaitKey_of_down x (show machine.fetched.keypad.firstDown = some key from lowest)]
      at succeeded
    cases succeeded
    rw [if_neg idle]
    rfl

/-- Executing an instruction leads to its successor. -/
theorem pc_of_execute {next : Machine} {instruction : Instruction}
    (inside : InRange machine.cpu.pc 2)
    (succeeded : machine.fetched.execute instruction = (next, none)) :
    next.cpu.pc = machine.successor instruction := by
  cases instruction with
  | jump _ | jumpOffset _ => cases succeeded; rfl
  | call _ =>
      rw [execute_call] at succeeded
      obtain ⟨-, rfl⟩ := of_check_passed succeeded
      rfl
  | ret => exact pc_of_ret succeeded
  | skipEqualByte _ _ | skipEqual _ _ => cases succeeded; exact pc_of_skipIf beq_iff_eq
  | skipUnequalByte _ _ | skipUnequal _ _ => cases succeeded; exact pc_of_skipIf bne_iff_ne
  | skipDown x =>
      rw [execute_skipDown] at succeeded
      cases succeeded
      exact pc_of_skipIf beq_iff_eq
  | skipUp x =>
      rw [execute_skipUp] at succeeded
      cases succeeded
      exact pc_of_skipIf beq_iff_eq
  | awaitKey _ => exact pc_of_awaitKey inside succeeded
  | readDelay _ | draw _ _ _ | storeDecimal _ | storeRegisters _ | loadRegisters _ =>
      simp only [execute_readDelay, execute_draw, execute_storeDecimal, execute_storeRegisters,
        execute_loadRegisters] at succeeded
      obtain ⟨-, rfl⟩ := of_check_passed succeeded
      rfl
  | _ => cases succeeded; rfl

/-- A call leaves the place behind it on the stack. -/
theorem toList_of_call {next : Machine} {target : Address}
    (succeeded : machine.fetched.execute (.call target) = (next, none)) :
    next.cpu.stack.toList = machine.cpu.stack.toList ++ [machine.cpu.pc + 2] := by
  rw [execute_call] at succeeded
  obtain ⟨-, rfl⟩ := of_check_passed succeeded
  exact List.reverse_cons

/-- Tests are never refused. -/
theorem execute_of_opposite (machine : Machine) {instruction opposite : Instruction}
    (opposed : instruction.opposite? = some opposite) :
    ∃ next, machine.execute opposite = (next, none) := by
  cases instruction with
  | skipDown x => cases opposed; exact ⟨_, machine.execute_skipUp x⟩
  | skipUp x => cases opposed; exact ⟨_, machine.execute_skipDown x⟩
  | skipEqualByte _ _ | skipUnequalByte _ _ | skipEqual _ _ | skipUnequal _ _ =>
      cases opposed
      exact ⟨_, rfl⟩
  | _ => cases opposed

/-- A cycle that succeeds leads to the successor of its instruction, as the state before it
determines it. A call leaves the place behind it on the stack. A machine that is about to make the
opposite test, at the same place and with the same registers and keys, goes the other way. -/
theorem pc_of_cycle (running : machine.paused = false)
    (succeeded : machine.cycle.2.failure = none) :
    ∃ instruction, machine.nextInstruction? = some instruction ∧
      (0 ≤ machine.cpu.pc ∧ machine.cpu.pc ≤ 0xFFE) ∧
      machine.cycle.1.cpu.pc = machine.successor instruction ∧
      (∀ target, instruction = .call target →
        machine.cycle.1.cpu.stack.toList = machine.cpu.stack.toList ++ [machine.cpu.pc + 2]) ∧
      ∀ (opposite : Instruction) (other : Machine), instruction.opposite? = some opposite →
        other.paused = false → other.nextInstruction? = some opposite →
        other.cpu.pc = machine.cpu.pc → other.cpu.v = machine.cpu.v →
        other.keypad = machine.keypad →
          other.cycle.2.failure = none ∧
            machine.Apart machine.cycle.1.cpu.pc other.cycle.1.cpu.pc := by
  obtain ⟨instruction, found, executed⟩ := execute_of_cycle running succeeded
  have inside := (nextInstruction?_eq_some_iff.mp found).1
  have low : 0 ≤ machine.cpu.pc := inside.1
  have high := (Memory.inRange_iff_of_nonneg 2 low).mp inside
  refine ⟨instruction, found, ⟨low, by omega⟩, pc_of_execute inside executed, ?_, ?_⟩
  · rintro target rfl
    exact toList_of_call executed
  · intro opposite other opposed awake tests place registers keys
    obtain ⟨next, tested⟩ := other.fetched.execute_of_opposite opposed
    have within := (nextInstruction?_eq_some_iff.mp tests).1
    rw [cycle_of_execute awake tests tested, pc_of_execute inside executed]
    refine ⟨rfl, ?_⟩
    rw [pc_of_execute within tested]
    exact apart_successor opposed place registers keys

/-- A test in the last word of memory that holds leads behind the memory, and not to its start:
`LD V0, 0x40`, `LD I, 0xffe`, `LD [I], V0`, `JP 0xffe`, and at `0xffe` `SNE V0, 0x00`. -/
theorem pc_of_cycle_at_last_word :
    let machine := afterCycles [0x60, 0x40, 0xAF, 0xFE, 0xF0, 0x55, 0x1F, 0xFE] 4
    machine.cpu.pc = 0xFFE ∧ machine.cycle.2.failure = none ∧
      machine.cycle.1.cpu.pc = 0x1002 := by
  have facts :
      let machine := afterCycles [0x60, 0x40, 0xAF, 0xFE, 0xF0, 0x55, 0x1F, 0xFE] 4
      machine.paused = false ∧ machine.cycle.2.failure = none ∧ machine.cpu.pc = 0xFFE ∧
        machine.nextInstruction? = some (.skipUnequalByte 0 0x00) ∧
        machine.successor (.skipUnequalByte 0 0x00) = 0x1002 := by
    decide +kernel
  generalize afterCycles [0x60, 0x40, 0xAF, 0xFE, 0xF0, 0x55, 0x1F, 0xFE] 4 = machine at facts ⊢
  obtain ⟨running, succeeded, place, tests, target⟩ := facts
  obtain ⟨instruction, found, -, led, -, -⟩ := pc_of_cycle running succeeded
  obtain rfl := Option.some.inj (tests.symm.trans found)
  exact ⟨place, succeeded, led.trans target⟩

end Machine

end Chip8
