import Chip8.Proofs.Bounds
import Chip8.Proofs.Disassembly
import Chip8.Proofs.Reports

/-!
The faults of cycles: when one arises, and what it leaves.

* `fault_execute` — an instruction is refused by a full call stack or by a block that ends behind
  the memory, and by nothing else.
* `fault_of_cycle` — the fault of a cycle, read off the state before it.
* `machine_of_failure` — a cycle that fails notes where it was and changes nothing else. Where no
  word could be fetched, every cycle fails in the same way until a reset.
-/

namespace Chip8.Machine

open Memory (InRange)

/-! ### Refused instructions -/

/-- The fault of an access to a block that the index register points at. -/
def blockFault? (machine : Machine) (size : Nat) : Option Fault :=
  if 0x1000 < machine.cpu.i + size then some (.memory (.outOfRange machine.cpu.i size)) else none

/-- The fault of an instruction, by the index register and the depth of the call stack. -/
def refusal? (machine : Machine) : Instruction → Option Fault
  | .call _ => if 16 ≤ machine.cpu.stack.entries.length then some (.stack .overflow) else none
  | .draw _ _ rows => machine.blockFault? rows.val
  | .storeDecimal _ => machine.blockFault? 3
  | .storeRegisters x | .loadRegisters x => machine.blockFault? (x.val + 1)
  | _ => none

/-- The check of a block decides as `blockFault?` does. -/
theorem fault_access {machine : Machine} (bounded : machine.cpu.Bounded) (size : Nat)
    (next : Machine) :
    (if InRange machine.cpu.i size then (next, none)
      else (machine, some (.memory (.outOfRange machine.cpu.i size))) :
        Machine × Option Fault).2 = machine.blockFault? size := by
  have inside := Memory.inRange_iff_of_nonneg size bounded.index.1
  unfold blockFault?
  by_cases beyond : 0x1000 < machine.cpu.i + size
  · rw [if_neg (by rw [inside]; omega), if_pos beyond]
  · rw [if_pos (inside.mpr (by omega)), if_neg beyond]

/-- An instruction is refused exactly with the fault of `refusal?`. In particular the delay timer
fits into a register. -/
theorem fault_execute {machine : Machine} (bounded : machine.cpu.Bounded)
    (instruction : Instruction) :
    (machine.execute instruction).2 = machine.refusal? instruction := by
  cases instruction with
  | call target =>
      rw [execute_call, bounded.capacity]
      simp only [refusal?]
      by_cases full : 16 ≤ machine.cpu.stack.entries.length
      · rw [if_neg (by omega), if_pos full]
      · rw [if_pos (by omega), if_neg full]
  | draw x y rows => rw [execute_draw]; exact fault_access bounded rows.val _
  | storeDecimal x => rw [execute_storeDecimal]; exact fault_access bounded 3 _
  | storeRegisters x => rw [execute_storeRegisters]; exact fault_access bounded (x.val + 1) _
  | loadRegisters x => rw [execute_loadRegisters]; exact fault_access bounded (x.val + 1) _
  | readDelay x => rw [execute_readDelay, if_pos bounded.delay]; rfl
  | ret =>
      rw [execute_ret]
      cases machine.cpu.stack.entries with
      | nil => rfl
      | cons address rest => rfl
  | skipDown x => exact congrArg Prod.snd (machine.execute_skipDown x)
  | skipUp x => exact congrArg Prod.snd (machine.execute_skipUp x)
  | _ => rfl

/-- Fetching changes nothing that a refusal depends on. -/
theorem refusal?_fetched (machine : Machine) (instruction : Instruction) :
    machine.fetched.refusal? instruction = machine.refusal? instruction := by
  cases instruction <;> rfl

/-! ### Faults of a cycle -/

/-- A word can be fetched up to the last two bytes of memory. -/
theorem fetches_iff {machine : Machine} (bounded : machine.cpu.Bounded) :
    InRange machine.cpu.pc 2 ↔ machine.cpu.pc ≤ 0xFFE := by
  have ends := Memory.inRange_iff_of_nonneg 2 bounded.pc.1
  constructor
  · intro inside
    have := ends.mp inside
    omega
  · intro below
    exact ends.mpr (by omega)

/-- The fault that a running machine's next cycle ends in, by its program counter, the word there,
its index register and the depth of its call stack. -/
def cycleFault? (machine : Machine) : Option Fault :=
  let word := machine.nextWord
  let i := machine.cpu.i
  let n := word % 0x10
  let x := word / 0x100 % 0x10
  if 0xFFE < machine.cpu.pc then
    some (.memory (.outOfRange machine.cpu.pc 2))
  else if Instruction.ofWord? word = none then
    some (.opcode ⟨word⟩)
  else if word / 0x1000 = 0x2 ∧ 16 ≤ machine.cpu.stack.entries.length then
    some (.stack .overflow)
  else if word / 0x1000 = 0xD ∧ 0x1000 < i + n then
    some (.memory (.outOfRange i n))
  else if word / 0x1000 = 0xF ∧ word % 0x100 = 0x33 ∧ 0x1000 < i + 3 then
    some (.memory (.outOfRange i 3))
  else if word / 0x1000 = 0xF ∧ (word % 0x100 = 0x55 ∨ word % 0x100 = 0x65) ∧
      0x1000 < i + (x + 1 : Nat) then
    some (.memory (.outOfRange i (x + 1 : Nat)))
  else
    none

/-- On a word of the instruction set, `cycleFault?` is the fault of its instruction. -/
theorem cycleFault?_of_known {machine : Machine} {instruction : Instruction}
    (fetches : machine.cpu.pc ≤ 0xFFE)
    (known : Instruction.ofWord? machine.nextWord = some instruction) :
    machine.cycleFault? = machine.refusal? instruction := by
  have word := Instruction.toWord_of_ofWord? known
  simp only [cycleFault?, Int.not_lt.mpr fetches, known, reduceCtorEq, if_false]
  rw [← word]
  cases instruction <;> simp [Instruction.toWord, refusal?, blockFault?]

/-- A running machine's cycle fails exactly with the fault of `cycleFault?`. -/
theorem fault?_cycle {machine : Machine} (bounded : machine.cpu.Bounded)
    (running : machine.paused = false) :
    machine.cycle.2.failure.map Failure.fault = machine.cycleFault? := by
  have inside := fetches_iff bounded
  have outcome := machine.outcome_cycle
  generalize machine.cycle = ended at outcome ⊢
  cases outcome with
  | paused paused => rw [running] at paused; cases paused
  | unfetched _ outside =>
      have beyond : 0xFFE < machine.cpu.pc := Int.not_le.mp (mt inside.mpr outside)
      simp only [cycleFault?, if_pos beyond]
      rfl
  | undecoded _ fetches unknown =>
      have below : ¬ 0xFFE < machine.cpu.pc := Int.not_lt.mpr (inside.mp fetches)
      simp only [cycleFault?, if_neg below, if_pos unknown]
      rfl
  | @refused instruction _ _ fetches known failed =>
      have refused := fault_execute (bounded_fetched bounded fetches).1 instruction
      rw [cycleFault?_of_known (inside.mp fetches) known, ← refusal?_fetched, ← refused, failed]
      rfl
  | @executed instruction _ _ fetches known succeeded =>
      have accepted := fault_execute (bounded_fetched bounded fetches).1 instruction
      rw [cycleFault?_of_known (inside.mp fetches) known, ← refusal?_fetched, ← accepted,
        succeeded]
      rfl

/-- The faults that can halt a program. -/
theorem cases_of_cycleFault? {machine : Machine} {fault : Fault}
    (faulty : machine.cycleFault? = some fault) :
    (∃ location size, fault = .memory (.outOfRange location size)) ∨
      (∃ opcode, fault = .opcode ⟨opcode⟩) ∨ fault = .stack .overflow := by
  simp only [cycleFault?] at faulty
  repeat' split at faulty
  all_goals cases faulty
  all_goals simp

/-- The cycle of a machine that is not paused fails exactly when `cycleFault?` says so, with the
fault that it names: an access outside memory, an unknown word or a full call stack, and never
another. In every other state it succeeds. -/
theorem fault_of_cycle {machine : Machine} (reachable : machine.Reachable)
    (running : machine.paused = false) :
    machine.cycle.2.failure.map Failure.fault = machine.cycleFault? ∧
      ∀ failure, machine.cycle.2.failure = some failure →
        (∃ location size, failure.fault = .memory (.outOfRange location size)) ∨
          (∃ opcode, failure.fault = .opcode ⟨opcode⟩) ∨ failure.fault = .stack .overflow := by
  have exactly := fault?_cycle reachable.bounded running
  refine ⟨exactly, fun failure failed => ?_⟩
  have faulty : machine.cycleFault? = some failure.fault := by
    rw [← exactly, failed]
    rfl
  exact cases_of_cycleFault? faulty

/-- The index register may point at the end of memory, but no sprite can be drawn from there:
`LD I, 0xfff`, `LD V0, 0x01`, `ADD I, V0`, `DRW V0, V0, 0x1`. -/
theorem fault_of_cycle_behind_memory :
    (afterCycles [0xAF, 0xFF, 0x60, 0x01, 0xF0, 0x1E, 0xD0, 0x01] 3).cycle.2.failure.map
      Failure.fault = some (.memory (.outOfRange 0x1000 1)) := by
  have facts : (afterCycles [0xAF, 0xFF, 0x60, 0x01, 0xF0, 0x1E, 0xD0, 0x01] 3).paused = false ∧
      (afterCycles [0xAF, 0xFF, 0x60, 0x01, 0xF0, 0x1E, 0xD0, 0x01] 3).cycleFault? =
        some (.memory (.outOfRange 0x1000 1)) := by
    decide +kernel
  rw [← facts.2]
  exact (fault_of_cycle (reachable_afterCycles _ _) facts.1).1

/-! ### What a fault leaves -/

/-- The machine is stuck at a place where no word can be fetched, and has noted that already. -/
structure StuckAt (place word : Int) (machine : Machine) : Prop where
  outside : ¬ InRange place 2
  pc : machine.cpu.pc = place
  fetchedAt : machine.cpu.fetchedAt = place
  opcode : machine.cpu.opcode = word

namespace StuckAt

variable {place word : Int} {machine : Machine}

/-- There is nothing left to note. -/
theorem unfetched_eq (stuck : StuckAt place word machine) : machine.unfetched = machine := by
  have noted : machine.cpu.pc = machine.cpu.fetchedAt := stuck.pc.trans stuck.fetchedAt.symm
  obtain ⟨⟨v, i, delay, sound, pc, fetchedAt, opcode, stack⟩, _⟩ := machine
  cases noted
  rfl

/-- A cycle of a stuck machine fails and changes nothing at all. -/
theorem cycle_eq (stuck : StuckAt place word machine) (running : machine.paused = false) :
    machine.cycle = (machine, { failure := some {
      fault := .memory (.outOfRange place 2)
      report := some (machine.cpu.crashReport undecoded) } }) := by
  have outcome := machine.outcome_cycle
  generalize machine.cycle = ended at outcome ⊢
  cases outcome with
  | paused paused => rw [running] at paused; cases paused
  | unfetched _ _ =>
      rw [stuck.unfetched_eq, stuck.pc]
      rfl
  | undecoded _ inside _ | refused _ inside _ _ | executed _ inside _ _ =>
      rw [stuck.pc] at inside
      exact absurd inside stuck.outside

/-- Nothing but a reset frees a stuck machine. -/
theorem apply (stuck : StuckAt place word machine) {operation : Operation}
    (kept : operation ≠ .reset) : StuckAt place word (machine.apply operation).1 := by
  rcases machine.frame_apply operation with rfl | rfl | rfl | ⟨_, _, _, framed⟩
  · simp only [Machine.apply]
    cases running : machine.paused with
    | true =>
        simp only [cycle, running, if_true]
        exact stuck
    | false =>
        rw [stuck.cycle_eq running]
        exact stuck
  · simp only [Machine.apply, Machine.tick]
    split
    · exact stuck
    · exact { stuck with }
  · exact absurd rfl kept
  · rw [framed]
    exact { stuck with }

theorem run (stuck : StuckAt place word machine) {operations : List Operation}
    (kept : .reset ∉ operations) : StuckAt place word (machine.run operations).1 := by
  induction operations generalizing machine with
  | nil => exact stuck
  | cons operation rest ih =>
      rw [List.mem_cons, not_or] at kept
      exact ih (stuck.apply (Ne.symm kept.1)) kept.2

end StuckAt

/-- A fault that halts a program is reported with the state that the cycle leaves. -/
theorem report_failWith {machine : Machine} {fault : Fault} (crash : fault.isCrash = true)
    (text : String) :
    (machine.failWith fault text).report = some (machine.cpu.crashReport text) := by
  simp only [failWith, crash, if_true]

/-- The report, character by character. -/
theorem chars_failWith {machine : Machine} {fault : Fault} (crash : fault.isCrash = true)
    (text : String) :
    (machine.failWith fault text).report.map String.toList =
      some (machine.cpu.reportChars text.toList) := by
  rw [report_failWith crash, Option.map_some, Cpu.toList_crashReport]

/-- Instructions are refused with faults that halt the program. -/
theorem isCrash_of_refusal? {machine : Machine} {instruction : Instruction} {fault : Fault}
    (refused : machine.refusal? instruction = some fault) : fault.isCrash = true := by
  cases instruction with
  | call _ | draw _ _ _ | storeDecimal _ | storeRegisters _ | loadRegisters _ =>
      simp only [refusal?, blockFault?] at refused
      split at refused <;> cases refused
      rfl
  | _ => cases refused

/-- A cycle that fails leaves the machine as it was, but for what it notes about itself.

Where a word could be fetched, that word and its place are noted and the program counter is past
it. Where none could be fetched only the place is noted, and until a reset every further cycle,
whatever happens in between, fails in the same way and changes nothing. The report tells the state
that is left, number by number, with the line of the instruction if there is one. -/
theorem machine_of_failure {machine : Machine} (reachable : machine.Reachable) {failure : Failure}
    (failed : machine.cycle.2.failure = some failure) :
    let left := machine.cycle.1
    let cpu := machine.cpu
    let text := (Instruction.ofWord? machine.nextWord).elim "???" Instruction.mnemonic
    if cpu.pc ≤ 0xFFE then
      left = { machine with
        cpu := { cpu with fetchedAt := cpu.pc, pc := cpu.pc + 2, opcode := machine.nextWord } } ∧
      failure.report = some (left.cpu.crashReport text) ∧
      failure.report.map String.toList =
        some (left.cpu.reportChars (Instruction.wordChars machine.nextWord))
    else
      left = { machine with cpu := { cpu with fetchedAt := cpu.pc } } ∧
      failure.report = some (left.cpu.crashReport "???") ∧
      failure.report.map String.toList = some (left.cpu.reportChars "???".toList) ∧
      ∀ operations, .reset ∉ operations →
        let later := (left.run operations).1
        later.cpu.pc = cpu.pc ∧ later.cpu.fetchedAt = cpu.pc ∧ later.cpu.opcode = cpu.opcode ∧
          (later.paused = false →
            later.cycle = (later, { failure := some {
              fault := failure.fault
              report := some (later.cpu.crashReport "???") } })) := by
  have bounded := reachable.bounded
  have inside := fetches_iff bounded
  have chars := Instruction.toList_elim_mnemonic machine.nextWord
  have outcome := machine.outcome_cycle
  generalize machine.cycle = ended at outcome failed ⊢
  intro left cpu text
  cases outcome with
  | paused _ => cases failed
  | executed _ _ _ _ => cases failed
  | undecoded _ fetches unknown =>
      cases failed
      simp only [text]
      rw [if_pos (inside.mp fetches), ← chars, unknown]
      exact ⟨rfl, report_failWith rfl _, chars_failWith rfl _⟩
  | @refused instruction fault _ fetches known refusal =>
      have refused := fault_execute (bounded_fetched bounded fetches).1 instruction
      rw [refusal] at refused
      have crash := isCrash_of_refusal? refused.symm
      cases failed
      simp only [text]
      rw [if_pos (inside.mp fetches), ← chars, known]
      exact ⟨rfl, report_failWith crash _, chars_failWith crash _⟩
  | unfetched _ outside =>
      cases failed
      rw [if_neg (mt inside.mpr outside)]
      refine ⟨rfl, report_failWith rfl _, chars_failWith rfl _, fun operations kept => ?_⟩
      have stuck : StuckAt machine.cpu.pc machine.cpu.opcode machine.unfetched :=
        ⟨outside, rfl, rfl, rfl⟩
      have later := stuck.run kept
      exact ⟨later.pc, later.fetchedAt, later.opcode, later.cycle_eq⟩

/-- A program that jumps to the last byte of memory, where no word fits, never leaves it again:
`JP 0xfff`. -/
theorem machine_of_failure_at_last_byte :
    let machine := afterCycles [0x1F, 0xFF] 1
    machine.cycle.2.failure.isSome = true ∧
      machine.cycle.1 = { machine with cpu := { machine.cpu with fetchedAt := machine.cpu.pc } } ∧
      ∀ operations, .reset ∉ operations → (machine.cycle.1.run operations).1.cpu.pc = 0xFFF := by
  have facts : (afterCycles [0x1F, 0xFF] 1).cycle.2.failure.isSome = true ∧
      (afterCycles [0x1F, 0xFF] 1).cpu.pc = 0xFFF := by
    decide +kernel
  have reachable := reachable_afterCycles [0x1F, 0xFF] 1
  generalize afterCycles [0x1F, 0xFF] 1 = machine at facts reachable ⊢
  obtain ⟨failure, failed⟩ := Option.isSome_iff_exists.mp facts.1
  have left := machine_of_failure reachable failed
  rw [if_neg (by rw [facts.2]; decide)] at left
  refine ⟨facts.1, left.1, fun operations kept => ?_⟩
  exact (left.2.2.2 operations kept).1.trans facts.2

end Chip8.Machine
