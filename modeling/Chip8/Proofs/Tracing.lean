import Chip8.Proofs.Coupling
import Chip8.Proofs.Disassembly
import Chip8.Proofs.Reports

/-!
Tracing.

A machine that traces writes a line for every instruction, between decoding it and executing it. The
program counter is past the instruction by then, but the line tells where the instruction was
fetched, and so it shows the state that the cycle has found.

* `line?` — the line that is due for an operation, as a function of the machine that it finds.
* `cycle_withTracing`, `apply_withTracing` — tracing adds the line that is due to the reply, and
  does nothing else.
* `run_withTracing` — the same for runs.
* `trace_of_run` — a traced run goes through the same states and failures as one that is not traced,
  and writes one line for every instruction that it decodes.
-/

namespace Chip8.Machine

open Memory (InRange)

variable {machine : Machine} {operation : Operation}

/-! ### Lines -/

/-- The line that is due for an operation: that of the instruction, if a cycle decodes one. -/
def line? (machine : Machine) : Operation → Option String
  | .cycle =>
      if machine.paused then none
      else machine.nextInstruction?.map fun instruction =>
        machine.fetched.cpu.traceLine instruction.mnemonic
  | _ => none

/-- The lines that are due in a run. -/
def lines (machine : Machine) (operations : List Operation) : List String :=
  (machine.history operations).filterMap fun entry => entry.1.line? entry.2

/-- The lines that are written with some replies. -/
def written (replies : List Reply) : List String := replies.filterMap Reply.trace

theorem line?_of_running (running : machine.paused = false) :
    machine.line? .cycle = machine.nextInstruction?.map fun instruction =>
      machine.fetched.cpu.traceLine instruction.mnemonic := by
  simp [line?, running]

/-- An instruction is found where a word can be read that is one. -/
theorem nextInstruction?_eq_some_iff_decode {instruction : Instruction} :
    machine.nextInstruction? = some instruction ↔
      ∃ (word : Nat) (decoded : Instruction.Decoded),
        machine.memory.readWord machine.cpu.pc = .ok word ∧
          Instruction.decode word = .ok decoded ∧ decoded.instruction = instruction := by
  rw [nextInstruction?_eq_some_iff, Instruction.ofWord?_eq_some_iff_decode, Memory.readWord_eq]
  constructor
  · rintro ⟨inside, decoded, known, same⟩
    exact ⟨machine.nextWord, decoded, if_pos inside, known, same⟩
  · rintro ⟨word, decoded, found, known, same⟩
    split at found
    next inside =>
      obtain rfl : machine.nextWord = word := Except.ok.inj found
      exact ⟨inside, decoded, known, same⟩
    next => cases found

/-- A line is due for a running cycle that fetches and decodes an instruction, and shows the state
that the cycle finds, number by number, with the address and the word that it fetches. -/
theorem line?_eq_some_iff {line : String} :
    machine.line? operation = some line ↔
      operation = .cycle ∧ machine.paused = false ∧
        ∃ (word : Nat) (decoded : Instruction.Decoded),
          machine.memory.readWord machine.cpu.pc = .ok word ∧
          Instruction.decode word = .ok decoded ∧
          line = Cpu.traceLine { machine.cpu with fetchedAt := machine.cpu.pc, opcode := word }
            decoded.instruction.mnemonic ∧
          line.toList =
            Cpu.lineChars { machine.cpu with fetchedAt := machine.cpu.pc, opcode := word }
              (decoded.op.template.map (Instruction.Cell.char word)) := by
  constructor
  · intro due
    cases operation with
    | cycle =>
        cases running : machine.paused with
        | true => simp [line?, running] at due
        | false =>
            rw [line?_of_running running] at due
            obtain ⟨instruction, found, rfl⟩ := Option.map_eq_some_iff.mp due
            obtain ⟨word, decoded, fetched, known, rfl⟩ :=
              nextInstruction?_eq_some_iff_decode.mp found
            have inside := (nextInstruction?_eq_some_iff.mp found).1
            rw [Memory.readWord_eq, if_pos inside] at fetched
            obtain rfl : machine.nextWord = word := Except.ok.inj fetched
            refine ⟨rfl, rfl, machine.nextWord, decoded, ?_, known, rfl, ?_⟩
            · rw [Memory.readWord_eq, if_pos inside]
              rfl
            · rw [Cpu.toList_traceLine_eq, Instruction.toList_mnemonic_of_decode known]
              rfl
    | _ => cases due
  · rintro ⟨rfl, running, word, decoded, fetched, known, rfl, -⟩
    have found := nextInstruction?_eq_some_iff_decode.mpr ⟨word, decoded, fetched, known, rfl⟩
    have inside := (nextInstruction?_eq_some_iff.mp found).1
    rw [Memory.readWord_eq, if_pos inside] at fetched
    obtain rfl : machine.nextWord = word := Except.ok.inj fetched
    rw [line?_of_running running, found]
    rfl

/-! ### Steps -/

/-- The machine with its tracing switched on or off. -/
def withTracing (machine : Machine) (tracing : Bool) : Machine :=
  machine.attach machine.random tracing

/-- The reply with the line that is due, if lines are written. -/
def Reply.withTrace (reply : Reply) (tracing : Bool) (line : Option String) : Reply :=
  { reply with trace := if tracing then line else none }

theorem execute_withTracing (machine : Machine) (tracing : Bool) (instruction : Instruction) :
    (machine.withTracing tracing).execute instruction =
      (machine.execute instruction).map (fun next => next.withTracing tracing) id := by
  cases sober : instruction.footprint.random with
  | true =>
      cases instruction with
      | random _ _ => rfl
      | _ => cases sober
  | false =>
      refine (machine.execute_attach machine.random tracing sober).trans ?_
      rcases succeeded : machine.execute instruction with ⟨next, _ | fault⟩
      · have kept := (confined_execute succeeded).random sober
        simp only [Prod.map, withTracing, kept]
      · obtain rfl := eq_of_execute_failed succeeded
        rfl

theorem cycle_withTracing (machine : Machine) (tracing : Bool) :
    (machine.withTracing tracing).cycle =
      (machine.cycle.1.withTracing tracing,
        machine.cycle.2.withTrace tracing (machine.line? .cycle)) := by
  -- The traced cycle ends in the same way as the other one, with the line in its reply.
  have outcome := machine.outcome_cycle
  generalize machine.cycle = ended at outcome ⊢
  cases outcome with
  | paused asleep =>
      have also : Outcome (machine.withTracing tracing) _ := .paused asleep
      rw [also.cycle_eq]
      simp [Reply.withTrace, line?, asleep]
  | unfetched running outside =>
      have also : Outcome (machine.withTracing tracing) _ := .unfetched running outside
      rw [also.cycle_eq, line?_of_running running]
      simp [Reply.withTrace, nextInstruction?, outside]
      exact ⟨rfl, rfl⟩
  | undecoded running inside unknown =>
      have also : Outcome (machine.withTracing tracing) _ := .undecoded running inside unknown
      rw [also.cycle_eq, line?_of_running running]
      simp [Reply.withTrace, nextInstruction?, inside, unknown]
      exact ⟨rfl, rfl⟩
  | @refused instruction _ running inside known failed =>
      have refused := machine.fetched.execute_withTracing tracing instruction
      rw [failed] at refused
      have also : Outcome (machine.withTracing tracing) _ := .refused running inside known refused
      rw [also.cycle_eq, line?_of_running running,
        nextInstruction?_eq_some_iff.mpr ⟨inside, known⟩]
      rfl
  | @executed instruction _ running inside known succeeded =>
      have executed := machine.fetched.execute_withTracing tracing instruction
      rw [succeeded] at executed
      have also : Outcome (machine.withTracing tracing) _ := .executed running inside known executed
      rw [also.cycle_eq, line?_of_running running,
        nextInstruction?_eq_some_iff.mpr ⟨inside, known⟩]
      rfl

/-- Beside cycles, no operation writes a line. -/
theorem trace_apply (other : operation ≠ .cycle) : (machine.apply operation).2.trace = none := by
  have settled (outcome : Machine × Option Fault) : (settle outcome).2.trace = none := by
    rcases outcome with ⟨left, _ | fault⟩ <;> rfl
  cases operation with
  | cycle => exact absurd rfl other
  | loadProgram _ | setKey _ _ | setKeys _ => exact settled _
  | tick | reset | pause | resume => rfl

/-- Tracing adds the line that is due to the reply, and does nothing else. -/
theorem apply_withTracing (machine : Machine) (tracing : Bool) (operation : Operation) :
    (machine.withTracing tracing).apply operation =
      ((machine.apply operation).1.withTracing tracing,
        (machine.apply operation).2.withTrace tracing (machine.line? operation)) := by
  by_cases cycles : operation = .cycle
  · rw [cycles]
    exact machine.cycle_withTracing tracing
  · have silent : machine.line? operation = none := by
      cases operation with
      | cycle => exact absurd rfl cycles
      | _ => rfl
    have reply :
        (machine.apply operation).2.withTrace tracing none = (machine.apply operation).2 := by
      have traceless := (trace_apply cycles : (machine.apply operation).2.trace = none)
      simp only [Reply.withTrace, ite_self, ← traceless]
    have applied := machine.apply_attach machine.random tracing cycles
    rw [silent, reply]
    unfold withTracing
    rw [applied, (machine.attached_of_apply cycles).1]

/-! ### Runs -/

theorem run_withTracing (machine : Machine) (tracing : Bool) (operations : List Operation) :
    ((machine.withTracing tracing).run operations).1 =
        (machine.run operations).1.withTracing tracing ∧
      ((machine.withTracing tracing).run operations).2.map Reply.failure =
        (machine.run operations).2.map Reply.failure ∧
      written ((machine.withTracing tracing).run operations).2 =
        if tracing then machine.lines operations else [] := by
  induction operations generalizing machine with
  | nil => simp [run, written, lines, history]
  | cons operation rest ih =>
      obtain ⟨state, failures, lines⟩ := ih (machine.apply operation).1
      simp only [run, machine.apply_withTracing tracing operation]
      refine ⟨state, ?_, ?_⟩
      · simp [failures, Reply.withTrace]
      · cases tracing with
        | false => simpa [written, Reply.withTrace] using lines
        | true =>
            simp only [written, Machine.lines, history, List.filterMap_cons, Reply.withTrace,
              if_true] at lines ⊢
            rw [lines]

/-- Tracing is transparent and complete.

A machine that traces goes through the same states as one that does not, and fails in the same
operations in the same way, with the same reports. It writes the lines that are due in its run, in
their order and no others, and the other machine writes none. A line is due for each cycle of the
running machine that fetches a word and decodes it, whether its instruction is executed or refused:
one line of text with the registers, the index and the timers that the cycle finds, the address and
the word that it fetches, and the instruction, each behind its label. -/
theorem trace_of_run (random : RandomSource) (operations : List Operation) :
    let live := fresh random true
    let silent := fresh random false
    (∀ count ≤ operations.length,
      (live.run (operations.take count)).1 =
        { (silent.run (operations.take count)).1 with tracing := true }) ∧
      (live.run operations).2.map Reply.failure = (silent.run operations).2.map Reply.failure ∧
      written (silent.run operations).2 = [] ∧
      written (live.run operations).2 = live.lines operations ∧
      ∀ (before : Machine) (operation : Operation) (line : String),
        (before.line? operation = some line ↔
          operation = .cycle ∧ before.paused = false ∧
            ∃ (word : Nat) (decoded : Instruction.Decoded),
              before.memory.readWord before.cpu.pc = .ok word ∧
              Instruction.decode word = .ok decoded ∧
              line = Cpu.traceLine { before.cpu with fetchedAt := before.cpu.pc, opcode := word }
                decoded.instruction.mnemonic ∧
              line.toList =
                Cpu.lineChars { before.cpu with fetchedAt := before.cpu.pc, opcode := word }
                  (decoded.op.template.map (Instruction.Cell.char word))) ∧
        (before.line? operation = some line → Text.IsLine line) := by
  intro live silent
  have traced : silent.withTracing true = live := rfl
  refine ⟨?_, ?_, ?_, ?_, ?_⟩
  · intro count _
    obtain ⟨state, -, -⟩ := silent.run_withTracing true (operations.take count)
    rw [traced] at state
    exact state.trans rfl
  · obtain ⟨-, failures, -⟩ := silent.run_withTracing true operations
    exact failures
  · obtain ⟨-, -, lines⟩ := silent.run_withTracing false operations
    exact lines
  · obtain ⟨-, -, lines⟩ := live.run_withTracing true operations
    exact lines
  · intro before operation line
    refine ⟨line?_eq_some_iff, ?_⟩
    intro due
    obtain ⟨-, -, word, decoded, -, -, rfl, -⟩ := line?_eq_some_iff.mp due
    exact Cpu.isLine_traceLine _ decoded.instruction.isLine_mnemonic

end Chip8.Machine
