import Chip8.Proofs.Footprint
import Chip8.Proofs.Waiting

/-!
Two machines that take the same operations side by side.

* `Outcome.cycle_eq` — a cycle ends in no more than one of the ways of `Outcome`.
* `coupled_cycle` — two machines that look alike to a cycle answer it alike, and what fetching and
  executing keep between them is kept by the cycle.
* `coupled_run` — what every operation keeps between two machines is kept by a run of operations,
  and the replies are the same.
* `HappensWithin` — what has happened among the first operations of a run.
* `history` — the operations of a run, each with the machine that it finds.
* `execute_refit`, `apply_refit` — what concerns neither the memory nor the screen goes the same way
  in a machine with others.
* `execute_attach`, `apply_attach` — what draws no random byte goes the same way at another random
  source, whether it is traced or not.
-/

namespace Chip8

/-- The instruction works on the processor, the keys and the random source alone. -/
def Instruction.isInternal : Instruction → Bool
  | .clear | .draw _ _ _ | .storeDecimal _ | .storeRegisters _ | .loadRegisters _ => false
  | _ => true

namespace Machine

open Memory (InRange)

variable {machine left right : Machine}

/-! ### Cycles -/

/-- The way in which a cycle ends is the only one. -/
theorem Outcome.cycle_eq {ended : Machine × Reply} (outcome : Outcome machine ended) :
    machine.cycle = ended := by
  cases outcome with
  | paused asleep =>
      unfold cycle
      exact if_pos asleep
  | unfetched running outside =>
      have other := machine.outcome_cycle
      generalize machine.cycle = ended at other ⊢
      cases other with
      | paused asleep => rw [running] at asleep; cases asleep
      | unfetched _ _ => rfl
      | undecoded _ inside _ | refused _ inside _ _ | executed _ inside _ _ =>
          exact absurd inside outside
  | undecoded running inside unknown => rw [cycle_of_inRange running inside, unknown]
  | refused running inside known failed =>
      have found := nextInstruction?_eq_some_iff.mpr ⟨inside, known⟩
      rw [cycle_of_nextInstruction? running found]
      simp only [dispatch, failed]
      rfl
  | executed running inside known succeeded =>
      exact cycle_of_execute running (nextInstruction?_eq_some_iff.mpr ⟨inside, known⟩) succeeded

/-- Both refused with the same fault, or both executed with related machines. -/
inductive Coupled (related : Machine → Machine → Prop) :
    Machine × Option Fault → Machine × Option Fault → Prop where
  | refused (left right : Machine) (fault : Fault) :
      Coupled related (left, some fault) (right, some fault)
  | executed {left right : Machine} (kept : related left right) :
      Coupled related (left, none) (right, none)

theorem Coupled.mono {related related' : Machine → Machine → Prop}
    {outcome outcome' : Machine × Option Fault} (coupled : Coupled related outcome outcome')
    (weaker : ∀ left right, related left right → related' left right) :
    Coupled related' outcome outcome' := by
  cases coupled with
  | refused left right fault => exact .refused left right fault
  | executed kept => exact .executed (weaker _ _ kept)

/-- The same outcome, up to a change of the machine that keeps it related. -/
theorem coupled_map {related : Machine → Machine → Prop} {change : Machine → Machine}
    (outcome : Machine × Option Fault)
    (kept : ∀ next, outcome = (next, none) → related next (change next)) :
    Coupled related outcome (outcome.map change id) := by
  obtain ⟨next, _ | fault⟩ := outcome
  · exact .executed (kept next rfl)
  · exact .refused next (change next) fault

/-- The same check in front of both. -/
theorem coupled_check {related : Machine → Machine → Prop} {passes : Prop} [Decidable passes]
    {refused refused' : Machine} {fault : Fault} (kept : passes → related left right) :
    Coupled related (if passes then (left, none) else (refused, some fault))
      (if passes then (right, none) else (refused', some fault)) := by
  by_cases passed : passes
  · rw [if_pos passed, if_pos passed]
    exact .executed (kept passed)
  · rw [if_neg passed, if_neg passed]
    exact .refused refused refused' fault

/-- The two machines look alike to a cycle: the same processor, and the same word if one is
fetched. -/
structure Alike (left right : Machine) : Prop where
  cpu : right.cpu = left.cpu
  paused : right.paused = left.paused
  tracing : right.tracing = left.tracing
  word : left.paused = false → InRange left.cpu.pc 2 → right.nextWord = left.nextWord

/-- A failure tells of the processor alone. -/
theorem failWith_congr (cpu : right.cpu = left.cpu) (fault : Fault) (text : String) :
    right.failWith fault text = left.failWith fault text := by
  unfold failWith
  rw [cpu]

theorem traceOf_congr (cpu : right.cpu = left.cpu) (tracing : right.tracing = left.tracing)
    (instruction : Instruction) : right.traceOf instruction = left.traceOf instruction := by
  unfold traceOf
  rw [cpu, tracing]

namespace Alike

/-- Both have noted the same of the fetch. -/
theorem cpu_unfetched (alike : Alike left right) : right.unfetched.cpu = left.unfetched.cpu := by
  simp only [unfetched, withCpu, alike.cpu]

theorem cpu_fetched (alike : Alike left right) (running : left.paused = false)
    (inside : InRange left.cpu.pc 2) : right.fetched.cpu = left.fetched.cpu := by
  simp only [fetched, withCpu, alike.cpu, alike.word running inside]

theorem nextInstruction?_eq (alike : Alike left right) (running : left.paused = false) :
    right.nextInstruction? = left.nextInstruction? := by
  unfold nextInstruction?
  rw [alike.cpu]
  by_cases inside : InRange left.cpu.pc 2
  · rw [if_pos inside, if_pos inside, alike.word running inside]
  · rw [if_neg inside, if_neg inside]

end Alike

/-- Machines that look alike to a cycle answer it alike, and what fetching and executing keep
between them is kept by the cycle. -/
theorem coupled_cycle {related : Machine → Machine → Prop} (alike : Alike left right)
    (before : related left right) (unfetched : related left.unfetched right.unfetched)
    (fetched : left.paused = false → InRange left.cpu.pc 2 → related left.fetched right.fetched)
    (executed : ∀ instruction, left.paused = false → left.nextInstruction? = some instruction →
      Coupled related (left.fetched.execute instruction) (right.fetched.execute instruction)) :
    right.cycle.2 = left.cycle.2 ∧ related left.cycle.1 right.cycle.1 := by
  have place : right.cpu.pc = left.cpu.pc := by rw [alike.cpu]
  have awake (running : left.paused = false) : right.paused = false := alike.paused.trans running
  -- However the first cycle ends, the second can end in the same way, and so it does.
  have outcome := left.outcome_cycle
  generalize left.cycle = ended at outcome ⊢
  cases outcome with
  | paused asleep =>
      have also : Outcome right _ := .paused (alike.paused.trans asleep)
      rw [also.cycle_eq]
      exact ⟨rfl, before⟩
  | unfetched running outside =>
      have also : Outcome right _ := .unfetched (awake running) (place.symm ▸ outside)
      rw [also.cycle_eq, failWith_congr alike.cpu_unfetched, place]
      exact ⟨rfl, unfetched⟩
  | undecoded running inside unknown =>
      have word := alike.word running inside
      have also : Outcome right _ :=
        .undecoded (awake running) (place.symm ▸ inside) (word.symm ▸ unknown)
      rw [also.cycle_eq, failWith_congr (alike.cpu_fetched running inside), word]
      exact ⟨rfl, fetched running inside⟩
  | @refused instruction fault running inside known failed =>
      have cpu := alike.cpu_fetched running inside
      have both := executed instruction running (nextInstruction?_eq_some_iff.mpr ⟨inside, known⟩)
      rw [failed] at both
      generalize result : right.fetched.execute instruction = refusal at both
      cases both with
      | refused =>
          obtain rfl := eq_of_execute_failed result
          have also : Outcome right _ := .refused (awake running) (place.symm ▸ inside)
            ((alike.word running inside).symm ▸ known) result
          rw [also.cycle_eq, failWith_congr cpu, traceOf_congr cpu alike.tracing]
          exact ⟨rfl, fetched running inside⟩
  | @executed instruction next running inside known succeeded =>
      have cpu := alike.cpu_fetched running inside
      have both := executed instruction running (nextInstruction?_eq_some_iff.mpr ⟨inside, known⟩)
      rw [succeeded] at both
      generalize result : right.fetched.execute instruction = success at both
      cases both with
      | executed kept =>
          have also : Outcome right _ := .executed (awake running) (place.symm ▸ inside)
            ((alike.word running inside).symm ▸ known) result
          rw [also.cycle_eq, traceOf_congr cpu alike.tracing]
          exact ⟨rfl, kept⟩

/-! ### Runs -/

/-- Where every operation of a run keeps two machines related and is answered alike, the run is. -/
theorem coupled_run {related : Nat → Machine → Machine → Prop} {operations : List Operation}
    (initial : related 0 left right)
    (step : ∀ count operation, operations[count]? = some operation →
      let first := (left.run (operations.take count)).1
      let second := (right.run (operations.take count)).1
      related count first second →
        (second.apply operation).2 = (first.apply operation).2 ∧
          related (count + 1) (first.apply operation).1 (second.apply operation).1) :
    (right.run operations).2 = (left.run operations).2 ∧
      ∀ count ≤ operations.length,
        related count (left.run (operations.take count)).1
          (right.run (operations.take count)).1 := by
  induction operations generalizing left right related with
  | nil =>
      refine ⟨rfl, fun count within => ?_⟩
      obtain rfl := Nat.le_zero.mp within
      exact initial
  | cons operation rest ih =>
      obtain ⟨reply, next⟩ :
          (right.apply operation).2 = (left.apply operation).2 ∧
            related 1 (left.apply operation).1 (right.apply operation).1 :=
        step 0 operation rfl initial
      have behind : ∀ count other, rest[count]? = some other → _ :=
        fun count other found => step (count + 1) other found
      obtain ⟨replies, later⟩ := @ih _ _ (fun count => related (count + 1)) next behind
      refine ⟨List.cons_eq_cons.mpr ⟨reply, replies⟩, fun count within => ?_⟩
      cases count with
      | zero => exact initial
      | succ count => exact later count (Nat.le_of_succ_le_succ within)

/-- Something holds of one of the first operations of a run, and of the machine that it finds. -/
def HappensWithin (machine : Machine) (operations : List Operation) (count : Nat)
    (event : Machine → Operation → Prop) : Prop :=
  ∃ earlier < count, ∃ operation, operations[earlier]? = some operation ∧
    event (machine.run (operations.take earlier)).1 operation

section HappensWithin

variable {operations : List Operation} {count : Nat} {operation : Operation}
variable {event : Machine → Operation → Prop}

theorem not_happensWithin_zero : ¬ machine.HappensWithin operations 0 event := by
  rintro ⟨_, before, _⟩
  exact absurd before (Nat.not_lt_zero _)

theorem happensWithin_succ_iff (found : operations[count]? = some operation) :
    machine.HappensWithin operations (count + 1) event ↔
      machine.HappensWithin operations count event ∨
        event (machine.run (operations.take count)).1 operation := by
  constructor
  · rintro ⟨earlier, before, other, met, happens⟩
    rcases Nat.lt_succ_iff_lt_or_eq.mp before with before | rfl
    · exact .inl ⟨earlier, before, other, met, happens⟩
    · obtain rfl := Option.some.inj (found.symm.trans met)
      exact .inr happens
  · rintro (⟨earlier, before, within⟩ | now)
    · exact ⟨earlier, Nat.lt_succ_of_lt before, within⟩
    · exact ⟨count, Nat.lt_succ_self count, operation, found, now⟩

end HappensWithin

/-- The operations of a run, each with the machine that it finds. -/
def history (machine : Machine) : List Operation → List (Machine × Operation)
  | [] => []
  | operation :: rest => (machine, operation) :: (machine.apply operation).1.history rest

/-! ### Other memories and screens -/

/-- The machine with another memory and another screen. -/
def refit (machine : Machine) (memory : Memory) (screen : Screen screenWidth screenHeight) :
    Machine :=
  { machine with memory, screen }

theorem execute_refit (machine : Machine) (memory : Memory)
    (screen : Screen screenWidth screenHeight) {instruction : Instruction}
    (internal : instruction.isInternal = true) :
    (machine.refit memory screen).execute instruction =
      (machine.execute instruction).map (fun next => next.refit memory screen) id := by
  cases instruction with
  | clear | draw _ _ _ | storeDecimal _ | storeRegisters _ | loadRegisters _ => cases internal
  | ret =>
      simp only [execute_ret, refit]
      cases machine.cpu.stack.entries <;> rfl
  | call target =>
      rw [machine.execute_call, apply_ite (Prod.map _ _)]
      exact execute_call _ target
  | readDelay x =>
      rw [machine.execute_readDelay, apply_ite (Prod.map _ _)]
      exact execute_readDelay _ x
  | skipDown x =>
      rw [machine.execute_skipDown]
      exact execute_skipDown _ x
  | skipUp x =>
      rw [machine.execute_skipUp]
      exact execute_skipUp _ x
  | awaitKey x =>
      simp only [execute, awaitKey, refit]
      cases machine.keypad.firstDown <;> rfl
  | _ => rfl

/-- An internal instruction leaves the memory and the screen alone. -/
theorem fit_of_internal {next : Machine} {instruction : Instruction}
    (internal : instruction.isInternal = true)
    (succeeded : machine.execute instruction = (next, none)) :
    next.memory = machine.memory ∧ next.screen = machine.screen := by
  have refitted := machine.execute_refit machine.memory machine.screen internal
  have same : machine.refit machine.memory machine.screen = machine := rfl
  rw [same, succeeded] at refitted
  have kept : next = next.refit machine.memory machine.screen := congrArg Prod.fst refitted
  rw [kept]
  exact ⟨rfl, rfl⟩

theorem apply_refit (machine : Machine) (memory : Memory)
    (screen : Screen screenWidth screenHeight) {operation : Operation}
    (gentle : operation.isGentle = true) (other : operation ≠ .cycle) :
    (machine.refit memory screen).apply operation =
      ((machine.apply operation).1.refit memory screen, (machine.apply operation).2) := by
  cases operation with
  | loadProgram _ | reset => cases gentle
  | cycle => exact absurd rfl other
  | pause | resume => rfl
  | tick =>
      obtain ⟨_, _, _, _, _, _, paused⟩ := machine
      cases paused <;> rfl
  | setKey key down =>
      simp only [apply, setKey, refit]
      rcases machine.keypad.setDown key down with ⟨keypad, _ | fault⟩ <;> rfl
  | setKeys states =>
      simp only [apply, setKeys, refit]
      rcases machine.keypad.setAll states with ⟨keypad, _ | fault⟩ <;> rfl

theorem fit_of_gentle (machine : Machine) {operation : Operation}
    (gentle : operation.isGentle = true) (other : operation ≠ .cycle) :
    (machine.apply operation).1.memory = machine.memory ∧
      (machine.apply operation).1.screen = machine.screen := by
  have refitted := machine.apply_refit machine.memory machine.screen gentle other
  have same : machine.refit machine.memory machine.screen = machine := rfl
  rw [same] at refitted
  rw [refitted]
  exact ⟨rfl, rfl⟩

/-! ### Other random sources and traces -/

/-- The machine at another random source, and with its tracing switched on or off. -/
def attach (machine : Machine) (random : RandomSource) (tracing : Bool) : Machine :=
  { machine with random, tracing }

theorem execute_attach (machine : Machine) (random : RandomSource) (tracing : Bool)
    {instruction : Instruction} (sober : instruction.footprint.random = false) :
    (machine.attach random tracing).execute instruction =
      (machine.execute instruction).map (fun next => next.attach random tracing) id := by
  cases instruction with
  | random _ _ => cases sober
  | ret =>
      simp only [execute_ret, attach]
      cases machine.cpu.stack.entries <;> rfl
  | call target =>
      rw [machine.execute_call, apply_ite (Prod.map _ _)]
      exact execute_call _ target
  | skipDown x =>
      rw [machine.execute_skipDown]
      exact execute_skipDown _ x
  | skipUp x =>
      rw [machine.execute_skipUp]
      exact execute_skipUp _ x
  | awaitKey x =>
      simp only [execute, awaitKey, attach]
      cases machine.keypad.firstDown <;> rfl
  | readDelay x =>
      rw [machine.execute_readDelay, apply_ite (Prod.map _ _)]
      exact execute_readDelay _ x
  | draw x y rows =>
      rw [machine.execute_draw, apply_ite (Prod.map _ _)]
      exact execute_draw _ x y rows
  | storeDecimal x =>
      rw [machine.execute_storeDecimal, apply_ite (Prod.map _ _)]
      exact execute_storeDecimal _ x
  | storeRegisters x =>
      rw [machine.execute_storeRegisters, apply_ite (Prod.map _ _)]
      exact execute_storeRegisters _ x
  | loadRegisters x =>
      rw [machine.execute_loadRegisters, apply_ite (Prod.map _ _)]
      exact execute_loadRegisters _ x
  | _ => rfl

theorem apply_attach (machine : Machine) (random : RandomSource) (tracing : Bool)
    {operation : Operation} (other : operation ≠ .cycle) :
    (machine.attach random tracing).apply operation =
      ((machine.apply operation).1.attach random tracing, (machine.apply operation).2) := by
  cases operation with
  | cycle => exact absurd rfl other
  | reset | pause | resume => rfl
  | tick =>
      obtain ⟨_, _, _, _, _, _, paused⟩ := machine
      cases paused <;> rfl
  | loadProgram program =>
      simp only [apply, loadProgram, attach]
      rcases machine.memory.loadProgram program with ⟨memory, _ | fault⟩ <;> rfl
  | setKey key down =>
      simp only [apply, setKey, attach]
      rcases machine.keypad.setDown key down with ⟨keypad, _ | fault⟩ <;> rfl
  | setKeys states =>
      simp only [apply, setKeys, attach]
      rcases machine.keypad.setAll states with ⟨keypad, _ | fault⟩ <;> rfl

/-- Beside cycles, no operation draws a random byte or switches tracing. -/
theorem attached_of_apply (machine : Machine) {operation : Operation} (other : operation ≠ .cycle) :
    (machine.apply operation).1.random = machine.random ∧
      (machine.apply operation).1.tracing = machine.tracing := by
  have attached := machine.apply_attach machine.random machine.tracing other
  have same : machine.attach machine.random machine.tracing = machine := rfl
  rw [same] at attached
  rw [attached]
  exact ⟨rfl, rfl⟩

end Machine

end Chip8
