import Chip8.Proofs.Coupling
import Chip8.Proofs.Faults

/-!
The timers count ticks, and nothing else.

* `Timer` — the two timers, each with the instruction that sets it.
* `executed` — the instructions that a run executes.
* `timer_apply`, `timer_run` — a timer that no instruction sets counts down with the ticks that find
  the machine running, and stops at zero.
* `execute_retime`, `cycle_retime` — to an instruction that neither reads nor sets a timer the
  timers make no difference.
* `SameButTimers` — two replies that differ in nothing but the timers that they show.
* `timers_of_run` — how far the timers have counted down after a run, and that a tick and a cycle
  can be exchanged.
-/

namespace Chip8

/-- The two timers. -/
inductive Timer where
  | delay
  | sound
  deriving DecidableEq, Repr

/-- The instruction that sets a timer. -/
def Timer.setter (x : Nibble) : Timer → Instruction
  | .delay => .setDelay x
  | .sound => .setSound x

def Cpu.timer (cpu : Cpu) : Timer → Int
  | .delay => cpu.delay
  | .sound => cpu.sound

/-- The instruction reads or sets a timer. -/
def Instruction.isTimed : Instruction → Bool
  | .readDelay _ | .setDelay _ | .setSound _ => true
  | _ => false

namespace Machine

open Memory (InRange)

variable {machine : Machine} {operation : Operation} {instruction : Instruction} {timer : Timer}

/-! ### Counting down -/

/-- The instruction that an operation executes: that of a cycle which succeeds. -/
def executed? (machine : Machine) : Operation → Option Instruction
  | .cycle =>
      if machine.paused = false ∧ machine.cycle.2.failure = none then machine.nextInstruction?
      else none
  | _ => none

/-- The instructions that a run executes. -/
def executed (machine : Machine) (operations : List Operation) : List Instruction :=
  (machine.history operations).filterMap fun entry => entry.1.executed? entry.2

theorem mem_executed_cons {rest : List Operation} :
    instruction ∈ machine.executed (operation :: rest) ↔
      machine.executed? operation = some instruction ∨
        instruction ∈ (machine.apply operation).1.executed rest := by
  simp only [executed, history, List.filterMap_cons]
  cases machine.executed? operation with
  | none => simp
  | some first => simp [eq_comm]

theorem timer_execute {next : Machine} (succeeded : machine.execute instruction = (next, none))
    (kept : ∀ x, instruction ≠ timer.setter x) :
    next.cpu.timer timer = machine.cpu.timer timer := by
  have confined := confined_execute succeeded
  cases timer with
  | delay =>
      refine confined.delay ?_
      cases instruction with
      | setDelay x => exact absurd rfl (kept x)
      | _ => rfl
  | sound =>
      refine confined.sound ?_
      cases instruction with
      | setSound x => exact absurd rfl (kept x)
      | _ => rfl

theorem timer_cycle (kept : ∀ x, machine.executed? .cycle ≠ some (timer.setter x)) :
    machine.cycle.1.cpu.timer timer = machine.cpu.timer timer := by
  have outcome := machine.outcome_cycle
  simp only [executed?] at kept
  generalize machine.cycle = ended at outcome kept ⊢
  cases outcome with
  | paused _ => rfl
  | unfetched _ _ | undecoded _ _ _ | refused _ _ _ _ => cases timer <;> rfl
  | @executed instruction next running inside known succeeded =>
      rw [if_pos ⟨running, rfl⟩, nextInstruction?_eq_some_iff.mpr ⟨inside, known⟩] at kept
      have left := timer_execute succeeded fun x set => kept x (congrArg some set)
      refine left.trans ?_
      cases timer <;> rfl

theorem timer_tick (machine : Machine) (timer : Timer) (low : 0 ≤ machine.cpu.timer timer) :
    machine.tick.cpu.timer timer = (machine.cpu.timer timer - machine.liveTick .tick).toNat := by
  unfold Machine.tick liveTick
  cases machine.paused with
  | true =>
      show machine.cpu.timer timer = (machine.cpu.timer timer - (0 : Nat)).toNat
      omega
  | false =>
      have counted : machine.cpu.tick.timer timer =
          if 0 < machine.cpu.timer timer then machine.cpu.timer timer - 1
          else machine.cpu.timer timer := by
        cases timer <;> rfl
      show machine.cpu.tick.timer timer = (machine.cpu.timer timer - (1 : Nat)).toNat
      rw [counted]
      split <;> omega

/-- An operation other than a reset counts a timer down if it is a tick of the running machine, and
leaves it alone unless it executes the instruction that sets it. -/
theorem timer_apply (low : 0 ≤ machine.cpu.timer timer) (other : operation ≠ .reset)
    (kept : ∀ x, machine.executed? operation ≠ some (timer.setter x)) :
    (machine.apply operation).1.cpu.timer timer =
      (machine.cpu.timer timer - machine.liveTick operation).toNat := by
  have still (same : (machine.apply operation).1.cpu.timer timer = machine.cpu.timer timer)
      (unticked : machine.liveTick operation = 0) :
      (machine.apply operation).1.cpu.timer timer =
        (machine.cpu.timer timer - machine.liveTick operation).toNat := by
    rw [same, unticked]
    omega
  cases operation with
  | cycle => exact still (timer_cycle kept) rfl
  | tick => exact machine.timer_tick timer low
  | reset => exact absurd rfl other
  | pause | resume => exact still rfl rfl
  | loadProgram program =>
      obtain ⟨_, framed⟩ := machine.frame_loadProgram program
      exact still (by rw [framed]) rfl
  | setKey key down =>
      obtain ⟨_, framed⟩ := machine.frame_setKey key down
      exact still (by rw [framed]) rfl
  | setKeys states =>
      obtain ⟨_, framed⟩ := machine.frame_setKeys states
      exact still (by rw [framed]) rfl

theorem timer_run {operations : List Operation} (low : 0 ≤ machine.cpu.timer timer)
    (other : .reset ∉ operations)
    (kept : ∀ x, timer.setter x ∉ machine.executed operations) :
    (machine.run operations).1.cpu.timer timer =
      (machine.cpu.timer timer - machine.liveTicks operations).toNat := by
  induction operations generalizing machine with
  | nil =>
      show machine.cpu.timer timer = (machine.cpu.timer timer - (0 : Nat)).toNat
      omega
  | cons operation rest ih =>
      obtain ⟨first, others⟩ := not_or.mp (mt List.mem_cons.mpr other)
      have now := timer_apply low (Ne.symm first) fun x sets =>
        kept x (mem_executed_cons.mpr (.inl sets))
      have later := ih (by rw [now]; exact Int.natCast_nonneg _) others fun x sets =>
        kept x (mem_executed_cons.mpr (.inr sets))
      rw [now] at later
      refine later.trans ?_
      rw [liveTicks]
      omega

/-! ### Other timers -/

/-- The machine with its timers set. -/
def retime (machine : Machine) (delay sound : Int) : Machine :=
  machine.withCpu { machine.cpu with delay, sound }

theorem skipIf_retime (machine : Machine) (delay sound : Int) (condition : Bool) :
    (machine.retime delay sound).withCpu ((machine.retime delay sound).cpu.skipIf condition) =
      (machine.withCpu (machine.cpu.skipIf condition)).retime delay sound := by
  cases condition <;> rfl

theorem withV_retime (machine : Machine) (delay sound : Int) (v : Vector UInt8 16) :
    (machine.retime delay sound).withCpu { (machine.retime delay sound).cpu with v } =
      (machine.withCpu { machine.cpu with v }).retime delay sound :=
  rfl

/-- An instruction that neither reads nor sets a timer does the same with others. -/
theorem execute_retime (machine : Machine) (delay sound : Int)
    (untimed : instruction.isTimed = false) :
    (machine.retime delay sound).execute instruction =
      (machine.execute instruction).map (fun next => next.retime delay sound) id := by
  cases instruction with
  | readDelay _ | setDelay _ | setSound _ => cases untimed
  | skipEqualByte _ _ | skipUnequalByte _ _ | skipEqual _ _ | skipUnequal _ _ =>
      exact congrArg (·, none) (machine.skipIf_retime delay sound _)
  | skipDown x =>
      rw [machine.execute_skipDown, execute_skipDown]
      exact congrArg (·, none) (machine.skipIf_retime delay sound _)
  | skipUp x =>
      rw [machine.execute_skipUp, execute_skipUp]
      exact congrArg (·, none) (machine.skipIf_retime delay sound _)
  | ret =>
      simp only [execute_ret, retime, withCpu]
      cases machine.cpu.stack.entries <;> rfl
  | call target =>
      rw [machine.execute_call, apply_ite (Prod.map _ _)]
      exact execute_call _ target
  | awaitKey x =>
      simp only [execute, awaitKey, retime, withCpu]
      cases machine.keypad.firstDown <;> rfl
  | draw x y rows =>
      rw [machine.execute_draw, apply_ite (Prod.map _ _)]
      exact execute_draw _ x y rows
  | storeDecimal x =>
      rw [machine.execute_storeDecimal, apply_ite (Prod.map _ _)]
      exact execute_storeDecimal _ x
  | storeRegisters x =>
      rw [machine.execute_storeRegisters, apply_ite (Prod.map _ _)]
      exact execute_storeRegisters _ x
  | loadRegisters x =>
      have loads := execute_loadRegisters (machine.retime delay sound) x
      rw [machine.execute_loadRegisters]
      by_cases inside : InRange machine.cpu.i (x.val + 1 : Nat)
      · rw [if_pos inside]
        refine loads.trans ((if_pos inside).trans (congrArg (·, none) ?_))
        exact machine.withV_retime delay sound _
      · rw [if_neg inside]
        exact loads.trans (if_neg inside)
  | _ => rfl

/-- The two replies are the same, but the report and the line of the second show other timers. The
report is of the state `left`, and the line is of the state `shown`. -/
structure SameButTimers (shown left : Cpu) (delay sound : Int) (reply other : Reply) : Prop where
  failure : reply.failure = none ∧ other.failure = none ∨ ∃ fault text,
    reply.failure = some { fault, report := some (left.crashReport text) } ∧
      other.failure =
        some { fault, report := some (Cpu.crashReport { left with delay, sound } text) }
  trace : reply.trace = none ∧ other.trace = none ∨ ∃ text,
    reply.trace = some (shown.traceLine text) ∧
      other.trace = some (Cpu.traceLine { shown with delay, sound } text)

theorem trace_retime (machine : Machine) (delay sound : Int) (instruction : Instruction) :
    machine.traceOf instruction = none ∧ (machine.retime delay sound).traceOf instruction = none ∨
      ∃ text, machine.traceOf instruction = some (machine.cpu.traceLine text) ∧
        (machine.retime delay sound).traceOf instruction =
          some (Cpu.traceLine { machine.cpu with delay, sound } text) := by
  cases traces : machine.tracing with
  | false => exact .inl ⟨by simp [traceOf, traces], by simp [traceOf, retime, withCpu, traces]⟩
  | true =>
      refine .inr ⟨instruction.mnemonic, by simp [traceOf, traces], ?_⟩
      simp [traceOf, retime, withCpu, traces]

/-- A cycle whose instruction neither reads nor sets a timer goes the same way with others. -/
theorem cycle_retime (bounded : machine.cpu.Bounded)
    (untimed : ∀ instruction, machine.nextInstruction? = some instruction →
      instruction.isTimed = false) (delay sound : Int) :
    (machine.retime delay sound).cycle.1 = machine.cycle.1.retime delay sound ∧
      SameButTimers machine.fetched.cpu machine.cycle.1.cpu delay sound machine.cycle.2
        (machine.retime delay sound).cycle.2 := by
  -- The cycle with other timers ends in the same way.
  have outcome := machine.outcome_cycle
  generalize machine.cycle = ended at outcome ⊢
  cases outcome with
  | paused asleep =>
      have also : Outcome (machine.retime delay sound) _ := .paused asleep
      rw [also.cycle_eq]
      exact ⟨rfl, .inl ⟨rfl, rfl⟩, .inl ⟨rfl, rfl⟩⟩
  | unfetched running outside =>
      have also : Outcome (machine.retime delay sound) _ := .unfetched running outside
      rw [also.cycle_eq]
      exact ⟨rfl, .inr ⟨_, undecoded, rfl, rfl⟩, .inl ⟨rfl, rfl⟩⟩
  | undecoded running inside unknown =>
      have also : Outcome (machine.retime delay sound) _ := .undecoded running inside unknown
      rw [also.cycle_eq]
      exact ⟨rfl, .inr ⟨_, undecoded, rfl, rfl⟩, .inl ⟨rfl, rfl⟩⟩
  | @refused instruction fault running inside known failed =>
      have found := nextInstruction?_eq_some_iff.mpr ⟨inside, known⟩
      have failed' := machine.fetched.execute_retime delay sound (untimed instruction found)
      rw [failed] at failed'
      have also : Outcome (machine.retime delay sound) _ := .refused running inside known failed'
      have refused := fault_execute (bounded_fetched bounded inside).1 instruction
      rw [failed] at refused
      have reported (machine : Machine) : machine.failWith fault instruction.mnemonic =
          { fault, report := some (machine.cpu.crashReport instruction.mnemonic) } := by
        simp only [failWith, isCrash_of_refusal? refused.symm, if_true]
      rw [also.cycle_eq]
      exact ⟨rfl, .inr ⟨fault, instruction.mnemonic, congrArg some (reported machine.fetched),
          congrArg some (reported (machine.fetched.retime delay sound))⟩,
        machine.fetched.trace_retime delay sound instruction⟩
  | @executed instruction next running inside known succeeded =>
      have found := nextInstruction?_eq_some_iff.mpr ⟨inside, known⟩
      have succeeded' := machine.fetched.execute_retime delay sound (untimed instruction found)
      rw [succeeded] at succeeded'
      have also : Outcome (machine.retime delay sound) _ :=
        .executed running inside known succeeded'
      rw [also.cycle_eq]
      exact ⟨rfl, .inl ⟨rfl, rfl⟩, machine.fetched.trace_retime delay sound instruction⟩

/-! ### Ticks -/

/-- A running machine's tick sets its timers. -/
theorem tick_eq_retime (running : machine.paused = false) :
    machine.tick = machine.retime machine.cpu.tick.delay machine.cpu.tick.sound := by
  unfold Machine.tick
  rw [running, if_neg Bool.false_ne_true]
  rfl

theorem paused_cycle (machine : Machine) : machine.cycle.1.paused = machine.paused := by
  have outcome := machine.outcome_cycle
  generalize machine.cycle = ended at outcome ⊢
  cases outcome with
  | paused _ | unfetched _ _ | undecoded _ _ _ | refused _ _ _ _ => rfl
  | executed _ _ _ succeeded => exact (confined_execute succeeded).paused

/-- A cycle whose instruction neither reads nor sets a timer can be exchanged with a tick. -/
theorem cycle_tick (bounded : machine.cpu.Bounded)
    (untimed : ∀ instruction, machine.nextInstruction? = some instruction →
      instruction.isTimed = false) :
    machine.tick.cycle.1 = machine.cycle.1.tick ∧
      SameButTimers machine.fetched.cpu machine.cycle.1.cpu machine.cpu.tick.delay
        machine.cpu.tick.sound machine.cycle.2 machine.tick.cycle.2 := by
  cases running : machine.paused with
  | true =>
      have idle : machine.cycle = (machine, {}) := (Outcome.paused running).cycle_eq
      have still : machine.tick = machine := by
        unfold Machine.tick
        rw [if_pos running]
      rw [still, idle, still]
      exact ⟨rfl, .inl ⟨rfl, rfl⟩, .inl ⟨rfl, rfl⟩⟩
  | false =>
      -- With the timers that it has, the machine goes the same way, so the cycle has kept them.
      have own := (cycle_retime bounded untimed machine.cpu.delay machine.cpu.sound).1
      have same : machine.retime machine.cpu.delay machine.cpu.sound = machine := rfl
      rw [same] at own
      have delay : machine.cycle.1.cpu.delay = machine.cpu.delay := by rw [own]; rfl
      have sound : machine.cycle.1.cpu.sound = machine.cpu.sound := by rw [own]; rfl
      have timers : machine.cycle.1.cpu.tick.delay = machine.cpu.tick.delay ∧
          machine.cycle.1.cpu.tick.sound = machine.cpu.tick.sound := by
        simp only [Cpu.tick, delay, sound, and_self]
      rw [tick_eq_retime running, tick_eq_retime (machine.paused_cycle.trans running), timers.1,
        timers.2]
      exact cycle_retime bounded untimed _ _

theorem Reachable.timer_nonneg (reachable : machine.Reachable) (timer : Timer) :
    0 ≤ machine.cpu.timer timer := by
  cases timer with
  | delay => exact reachable.bounded.delay.1
  | sound => exact reachable.bounded.sound.1

/-- The timers count ticks, and nothing else.

Over any run without a reset a timer that no instruction sets counts down by the ticks that find the
machine running, and stops at zero, whatever else happens: cycles that fail, pauses, keys, other
programs. And where the next instruction neither reads nor sets a timer, a tick and a cycle can be
exchanged, also if the cycle fails: they leave the same machine and fail with the same fault, and
nothing but the timers in a report or in a trace line tells which came first. -/
theorem timers_of_run (reachable : machine.Reachable) :
    (∀ operations, .reset ∉ operations → ∀ timer : Timer,
      (∀ x, timer.setter x ∉ machine.executed operations) →
        (machine.run operations).1.cpu.timer timer =
          (machine.cpu.timer timer - machine.liveTicks operations).toNat) ∧
    ((∀ instruction, machine.nextInstruction? = some instruction → instruction.isTimed = false) →
      machine.tick.cycle.1 = machine.cycle.1.tick ∧
        SameButTimers machine.fetched.cpu machine.cycle.1.cpu machine.cpu.tick.delay
          machine.cpu.tick.sound machine.cycle.2 machine.tick.cycle.2) := by
  constructor
  · intro operations other timer kept
    exact timer_run (reachable.timer_nonneg timer) other kept
  · exact cycle_tick reachable.bounded

/-- A program that sets its timers and meets a word that is no instruction: `LD V0, 0x05`,
`LD DT, V0`, `LD ST, V0`, `LD V1, 0x03`, `0xffff`, `LD ST, V1`. -/
def countdownProgram : List UInt8 :=
  [0x60, 0x05, 0xF0, 0x15, 0xF0, 0x18, 0x61, 0x03, 0xFF, 0xFF, 0xF1, 0x18]

/-- Three of four ticks find the machine running, while it meets the word that is no instruction and
sets its other timer. The cycle that meets that word can be exchanged with a tick. -/
theorem timers_of_run_past_a_fault :
    let machine := afterCycles countdownProgram 3
    let faulty := afterCycles countdownProgram 4
    (machine.run [.tick, .cycle, .pause, .tick, .resume, .cycle, .setKey 16 true, .tick, .cycle,
      .tick]).1.cpu.delay = 2 ∧
    faulty.cycle.2.failure.isSome = true ∧ faulty.tick.cycle.1 = faulty.cycle.1.tick ∧
    faulty.tick.cycle.2.failure.isSome = true := by
  have facts :
      let machine := afterCycles countdownProgram 3
      let faulty := afterCycles countdownProgram 4
      let operations : List Operation := [.tick, .cycle, .pause, .tick, .resume, .cycle,
        .setKey 16 true, .tick, .cycle, .tick]
      .reset ∉ operations ∧ machine.executed operations = [.loadByte 1 3, .setSound 1] ∧
        machine.cpu.delay = 5 ∧ machine.liveTicks operations = 3 ∧
        faulty.nextInstruction? = none ∧ faulty.cycle.2.failure.isSome = true := by
    decide +kernel
  have reachable := reachable_afterCycles countdownProgram 3
  have reachable' := reachable_afterCycles countdownProgram 4
  generalize afterCycles countdownProgram 3 = machine at facts reachable ⊢
  generalize afterCycles countdownProgram 4 = faulty at facts reachable' ⊢
  obtain ⟨other, executed, delay, ticks, unknown, failed⟩ := facts
  have counted := (timers_of_run reachable).1 _ other .delay fun x => by
    rw [executed]
    simp [Timer.setter]
  obtain ⟨same, replies⟩ := (timers_of_run reachable').2 fun instruction found => by
    rw [unknown] at found
    cases found
  refine ⟨counted.trans ?_, failed, same, ?_⟩
  · rw [ticks]
    show ((machine.cpu.delay - (3 : Nat)).toNat : Int) = 2
    rw [delay]
    rfl
  · rcases replies.failure with ⟨fine, -⟩ | ⟨_, _, -, later⟩
    · rw [fine] at failed
      cases failed
    · rw [later]
      rfl

end Machine

end Chip8
