import Chip8.Proofs.ControlFlow

/-!
Waiting for a key.

An instruction that waits for a key is executed again in every cycle, so that the timers and the
display go on meanwhile.

* `cycle_of_idle`, `cycle_of_down` — a cycle of a machine that waits, without and with a key that is
  down.
* `Waits` — what a machine keeps while it waits, and how far its timers have counted down.
* `Waits.apply`, `Waits.run` — an operation and a run keep it, so long as no cycle finds a key down.
* `wait_of_run` — after any such run the machine still waits where it did, and the first cycle that
  finds a key down takes the lowest one and goes on.
-/

namespace Chip8

/-- The operation leaves the program and its state to the machine: it is no reset and loads no
program. -/
def Machine.Operation.isGentle : Machine.Operation → Bool
  | .loadProgram _ | .reset => false
  | .cycle | .tick | .pause | .resume | .setKey _ _ | .setKeys _ => true

namespace Machine

variable {machine start : Machine} {x : Nibble}

/-! ### Cycles -/

/-- Without a key that is down, a cycle of a machine that waits for one changes nothing but what is
noted of the fetch. -/
theorem cycle_of_idle (running : machine.paused = false)
    (waiting : machine.nextInstruction? = some (.awaitKey x)) (idle : machine.keypad.Idle) :
    machine.cycle =
      (machine.withCpu
        { machine.cpu with fetchedAt := machine.cpu.pc, opcode := machine.nextWord },
        { trace := machine.fetched.traceOf (.awaitKey x) }) := by
  have inside := (nextInstruction?_eq_some_iff.mp waiting).1
  have executed := machine.fetched.execute_awaitKey_of_idle x idle
  rw [cycle_of_execute running waiting executed]
  show (machine.withCpu { machine.cpu with
    pc := machine.fetched.cpu.rewind.pc
    fetchedAt := machine.cpu.pc
    opcode := machine.nextWord }, _) = _
  rw [pc_of_rewind inside]

/-- A key that is down is taken, the lowest one if there are several. -/
theorem cycle_of_down (running : machine.paused = false)
    (waiting : machine.nextInstruction? = some (.awaitKey x)) {key : Fin 16}
    (lowest : machine.keypad.firstDown = some key) :
    machine.cycle =
      (machine.withCpu
        { machine.cpu.setV x (UInt8.ofNat key.val) with
          pc := machine.cpu.pc + 2
          fetchedAt := machine.cpu.pc
          opcode := machine.nextWord },
        { trace := machine.fetched.traceOf (.awaitKey x) }) :=
  cycle_of_execute running waiting (execute_awaitKey_of_down x lowest)

/-! ### Waiting -/

/-- How often an operation counts the timers down. -/
def liveTick (machine : Machine) : Operation → Nat
  | .tick => if machine.paused then 0 else 1
  | _ => 0

/-- The ticks of a run that find the machine running. -/
def liveTicks (machine : Machine) : List Operation → Nat
  | [] => 0
  | operation :: rest => machine.liveTick operation + (machine.apply operation).1.liveTicks rest

/-- The cycles of a run that find the machine running find no key down. -/
def IdleAtCycles (machine : Machine) (operations : List Operation) : Prop :=
  ∀ count < operations.length, operations[count]? = some .cycle →
    (machine.run (operations.take count)).1.paused = false →
      (machine.run (operations.take count)).1.keypad.Idle

instance IdleAtCycles.decidable (machine : Machine) (operations : List Operation) :
    Decidable (machine.IdleAtCycles operations) := by
  unfold IdleAtCycles; infer_instance

/-- From a machine that waits for a key to a later state of it, so many ticks on. -/
structure Waits (start : Machine) (ticks : Nat) (now : Machine) : Prop where
  pc : now.cpu.pc = start.cpu.pc
  registers : now.cpu.v = start.cpu.v
  index : now.cpu.i = start.cpu.i
  stack : now.cpu.stack = start.cpu.stack
  memory : now.memory = start.memory
  screen : now.screen = start.screen
  delay : now.cpu.delay = (start.cpu.delay - ticks).toNat
  sound : now.cpu.sound = (start.cpu.sound - ticks).toNat

theorem waits_self (bounded : start.cpu.Bounded) : start.Waits 0 start where
  pc := rfl
  registers := rfl
  index := rfl
  stack := rfl
  memory := rfl
  screen := rfl
  delay := by have := bounded.delay; omega
  sound := by have := bounded.sound; omega

namespace Waits

variable {ticks : Nat}

/-- A machine that waits is still about to execute the instruction that it waits in. -/
theorem nextInstruction?_eq (waits : start.Waits ticks machine) :
    machine.nextInstruction? = start.nextInstruction? := by
  unfold nextInstruction? nextWord
  rw [waits.pc, waits.memory]

theorem cycle (waits : start.Waits ticks machine)
    (waiting : start.nextInstruction? = some (.awaitKey x))
    (idle : machine.paused = false → machine.keypad.Idle) :
    start.Waits ticks machine.cycle.1 := by
  cases running : machine.paused with
  | true =>
      unfold Machine.cycle
      rw [if_pos running]
      exact waits
  | false =>
      rw [cycle_of_idle running (waits.nextInstruction?_eq.trans waiting) (idle running)]
      exact { waits with }

/-- A timer that is counted down to zero stays there. -/
theorem countDown (timer : Int) (ticks : Nat) :
    (if 0 < ((timer - ticks).toNat : Int) then ((timer - ticks).toNat : Int) - 1
      else (timer - ticks).toNat) = ((timer - (ticks + 1 : Nat)).toNat : Int) := by
  split <;> omega

theorem tick (waits : start.Waits ticks machine) :
    start.Waits (ticks + machine.liveTick .tick) machine.tick := by
  unfold Machine.tick liveTick
  cases running : machine.paused with
  | true => exact waits
  | false =>
      exact { waits with
        delay := by
          show (if 0 < machine.cpu.delay then machine.cpu.delay - 1 else machine.cpu.delay) = _
          rw [waits.delay]
          exact countDown start.cpu.delay ticks
        sound := by
          show (if 0 < machine.cpu.sound then machine.cpu.sound - 1 else machine.cpu.sound) = _
          rw [waits.sound]
          exact countDown start.cpu.sound ticks }

theorem apply {operation : Operation} (waits : start.Waits ticks machine)
    (waiting : start.nextInstruction? = some (.awaitKey x)) (gentle : operation.isGentle = true)
    (idle : operation = .cycle → machine.paused = false → machine.keypad.Idle) :
    start.Waits (ticks + machine.liveTick operation) (machine.apply operation).1 := by
  cases operation with
  | cycle => exact waits.cycle waiting (idle rfl)
  | tick => exact waits.tick
  | pause | resume => exact { waits with }
  | setKey key down =>
      obtain ⟨keypad, framed⟩ := machine.frame_setKey key down
      rw [framed]
      exact { waits with }
  | setKeys states =>
      obtain ⟨keypad, framed⟩ := machine.frame_setKeys states
      rw [framed]
      exact { waits with }
  | loadProgram _ | reset => cases gentle

theorem run {operations : List Operation} (waits : start.Waits ticks machine)
    (waiting : start.nextInstruction? = some (.awaitKey x))
    (gentle : ∀ operation ∈ operations, operation.isGentle = true)
    (idle : machine.IdleAtCycles operations) :
    start.Waits (ticks + machine.liveTicks operations) (machine.run operations).1 := by
  induction operations generalizing machine ticks with
  | nil => exact waits
  | cons operation rest ih =>
      obtain ⟨first, others⟩ := List.forall_mem_cons.mp gentle
      have next := waits.apply waiting first fun cycles =>
        idle 0 (Nat.zero_lt_succ _) (congrArg some cycles)
      rw [liveTicks, ← Nat.add_assoc]
      refine ih next others ?_
      intro count within
      exact idle (count + 1) (Nat.succ_lt_succ within)

end Waits

/-- Waiting for a key blocks the program and nothing else. Whatever happens short of a reset or the
loading of a program, while no cycle finds a key down: the machine stays where it is with all it
has, and its timers count down with the ticks that find it running. The first cycle that finds keys
down takes the lowest of them and goes on behind the instruction. -/
theorem wait_of_run {operations : List Operation} (reachable : machine.Reachable)
    (waiting : machine.nextInstruction? = some (.awaitKey x))
    (gentle : ∀ operation ∈ operations, operation.isGentle = true)
    (idle : machine.IdleAtCycles operations) :
    let last := (machine.run operations).1
    machine.Waits (machine.liveTicks operations) last ∧
      (last.paused = false → ¬ last.keypad.Idle →
        ∃ key, (last.keypad.keys.get key = true ∧
            ∀ lower < key, last.keypad.keys.get lower = false) ∧
          last.cycle.2.failure = none ∧
          last.cycle.1 = last.withCpu { last.cpu.setV x (UInt8.ofNat key.val) with
            pc := machine.cpu.pc + 2
            fetchedAt := machine.cpu.pc
            opcode := machine.nextWord }) := by
  intro last
  have waits := (waits_self reachable.bounded).run waiting gentle idle
  rw [Nat.zero_add] at waits
  refine ⟨waits, fun running pressed => ?_⟩
  obtain ⟨key, lowest⟩ :=
    Option.ne_none_iff_exists'.mp (mt Keypad.firstDown_eq_none_iff.mp pressed)
  have word : last.nextWord = machine.nextWord := by
    unfold nextWord
    rw [waits.pc, waits.memory]
  have cycled := cycle_of_down running (waits.nextInstruction?_eq.trans waiting) lowest
  rw [waits.pc, word] at cycled
  rw [cycled]
  exact ⟨key, Keypad.firstDown_eq_some_iff.mp lowest, rfl, rfl⟩

/-- In the last word of memory a machine waits for two ticks of its timer, with a pause in between,
and then takes the lower of two keys: `LD V0, 0xf0`, `LD DT, V0`, `LD V1, 0x0a`, `LD I, 0xffe`,
`LD [I], V1`, `JP 0xffe`, and at `0xffe` `LD V0, K`. -/
theorem wait_of_run_at_last_word :
    let machine := afterCycles
      [0x60, 0xF0, 0xF0, 0x15, 0x61, 0x0A, 0xAF, 0xFE, 0xF1, 0x55, 0x1F, 0xFE] 6
    let last := (machine.run [.cycle, .tick, .pause, .cycle, .tick, .setKey 5 true, .cycle,
      .setKey 5 false, .resume, .tick, .cycle, .setKey 9 true, .setKey 3 true]).1
    last.cpu.pc = 0xFFE ∧ last.cpu.delay = 0xEE ∧ last.cycle.1.cpu.pc = 0x1000 ∧
      last.cycle.1.cpu.v.get 0 = 3 := by
  have facts :
      let machine := afterCycles
        [0x60, 0xF0, 0xF0, 0x15, 0x61, 0x0A, 0xAF, 0xFE, 0xF1, 0x55, 0x1F, 0xFE] 6
      let operations : List Operation := [.cycle, .tick, .pause, .cycle, .tick, .setKey 5 true,
        .cycle, .setKey 5 false, .resume, .tick, .cycle, .setKey 9 true, .setKey 3 true]
      (machine.cpu.pc = 0xFFE ∧ machine.cpu.delay = 0xF0 ∧
        machine.nextInstruction? = some (.awaitKey 0)) ∧
      (∀ operation ∈ operations, operation.isGentle = true) ∧
      machine.IdleAtCycles operations ∧ machine.liveTicks operations = 2 ∧
      (machine.run operations).1.paused = false ∧
      (machine.run operations).1.keypad.firstDown = some 3 := by
    decide +kernel
  have reachable := reachable_afterCycles
    [0x60, 0xF0, 0xF0, 0x15, 0x61, 0x0A, 0xAF, 0xFE, 0xF1, 0x55, 0x1F, 0xFE] 6
  generalize afterCycles
    [0x60, 0xF0, 0xF0, 0x15, 0x61, 0x0A, 0xAF, 0xFE, 0xF1, 0x55, 0x1F, 0xFE] 6 = machine
    at facts reachable ⊢
  obtain ⟨⟨place, delay, waiting⟩, gentle, idle, ticks, running, lowest⟩ := facts
  obtain ⟨waits, taken⟩ := wait_of_run reachable waiting gentle idle
  have pressed := mt Keypad.firstDown_eq_none_iff.mpr (by rw [lowest]; simp)
  obtain ⟨key, found, -, left⟩ := taken running pressed
  obtain rfl := Option.some.inj (lowest.symm.trans (Keypad.firstDown_eq_some_iff.mpr found))
  have counted := waits.delay
  rw [ticks, delay] at counted
  refine ⟨waits.pc.trans place, counted, ?_, ?_⟩
  · rw [left]
    show machine.cpu.pc + 2 = 0x1000
    rw [place]
    rfl
  · rw [left]
    exact Cpu.get_setV _ 0 0 3

end Machine

end Chip8
