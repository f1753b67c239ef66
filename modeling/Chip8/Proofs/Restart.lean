import Chip8.Proofs.Coupling
import Chip8.Proofs.Footprint

/-!
What a reset leaves of the past.

A reset puts everything back but the memory, the random source and the pause. Beside those only the
mark of the picture tells the machine from a fresh one: a reset clears the screen, and that is a
change to be shown.

* `SameButMark` — two machines that differ in nothing but that mark.
* `execute_rescreen`, `execute_of_paints` — no instruction reads the mark, and those that paint set
  it.
* `SameButMark.apply`, `SameOncePainted.apply` — no operation tells two such machines apart, and one
  that paints makes them equal.
* `SameButMark.run` — so it is over runs.
* `run_of_reset` — a machine that has been reset cannot be told from a fresh one by any run.
-/

namespace Chip8.Machine

variable {left right : Machine} {instruction : Instruction}

/-! ### Instructions and the screen -/

/-- An instruction that leaves the screen alone does the same before another one. -/
theorem execute_rescreen (machine : Machine) (screen : Screen screenWidth screenHeight)
    (unpainted : instruction.footprint.screen = false) :
    { machine with screen }.execute instruction =
      (machine.execute instruction).map (fun next => { next with screen }) id := by
  cases internal : instruction.isInternal with
  | true =>
      refine (machine.execute_refit machine.memory screen internal).trans ?_
      rcases succeeded : machine.execute instruction with ⟨next, _ | fault⟩
      · have kept := (fit_of_internal internal succeeded).1
        rw [← kept]
        rfl
      · obtain rfl := eq_of_execute_failed succeeded
        rfl
  | false =>
      cases instruction with
      | clear | draw _ _ _ => cases unpainted
      | storeDecimal x =>
          rw [machine.execute_storeDecimal, apply_ite (Prod.map _ _)]
          exact execute_storeDecimal _ x
      | storeRegisters x =>
          rw [machine.execute_storeRegisters, apply_ite (Prod.map _ _)]
          exact execute_storeRegisters _ x
      | loadRegisters x =>
          rw [machine.execute_loadRegisters, apply_ite (Prod.map _ _)]
          exact execute_loadRegisters _ x
      | _ => cases internal

/-! ### The mark of the picture -/

/-- The second machine is the first but for the mark of its picture. -/
def SameButMark (left right : Machine) : Prop :=
  right = { left with screen := left.screen.setMark right.screen.mark }

namespace SameButMark

theorem alike (same : SameButMark left right) : Alike left right := by
  rw [same]
  exact ⟨rfl, rfl, rfl, fun _ _ => rfl⟩

/-- An instruction that paints takes the cells as they are and sets the mark. -/
theorem execute_of_paints (same : SameButMark left right)
    (paints : instruction.footprint.screen = true) :
    Coupled Eq (left.execute instruction) (right.execute instruction) := by
  rw [same]
  cases instruction with
  | clear => exact .executed rfl
  | draw x y rows =>
      rw [left.execute_draw, execute_draw]
      exact coupled_check fun _ => rfl
  | _ => cases paints

theorem execute (same : SameButMark left right) (instruction : Instruction) :
    Coupled SameButMark (left.execute instruction) (right.execute instruction) := by
  cases paints : instruction.footprint.screen with
  | true =>
      refine (same.execute_of_paints paints).mono ?_
      rintro next _ rfl
      rfl
  | false =>
      rw [same, left.execute_rescreen (left.screen.setMark right.screen.mark) paints]
      refine coupled_map _ fun next succeeded => ?_
      rw [← (confined_execute succeeded).screen paints]
      rfl

end SameButMark

/-! ### Operations -/

/-- The operation sets the mark of the picture: it resets the machine, or it executes an instruction
that clears the screen or draws on it. -/
def Paints (machine : Machine) (operation : Operation) : Prop :=
  operation = .reset ∨
    operation = .cycle ∧ machine.paused = false ∧ machine.cycle.2.failure = none ∧
      ∃ instruction, machine.nextInstruction? = some instruction ∧
        instruction.footprint.screen = true

namespace SameButMark

theorem cycle (same : SameButMark left right) :
    right.cycle.2 = left.cycle.2 ∧ SameButMark left.cycle.1 right.cycle.1 := by
  refine coupled_cycle same.alike same ?_ (fun _ _ => ?_) fun instruction _ _ => execute ?_ _
  all_goals
    rw [same]
    rfl

/-- No operation tells two machines apart that differ in the mark alone. -/
theorem apply (same : SameButMark left right) (operation : Operation) :
    (right.apply operation).2 = (left.apply operation).2 ∧
      SameButMark (left.apply operation).1 (right.apply operation).1 := by
  by_cases cycles : operation = .cycle
  · rw [cycles]
    exact same.cycle
  cases gentle : operation.isGentle with
  | true =>
      have applied := (congrArg (fun machine => machine.apply operation) same).trans
        (left.apply_refit left.memory (left.screen.setMark right.screen.mark) gentle cycles)
      obtain ⟨memory, screen⟩ := left.fit_of_gentle gentle cycles
      rw [applied, ← memory, ← screen]
      exact ⟨rfl, rfl⟩
  | false =>
      rw [same]
      cases operation with
      | reset => exact ⟨rfl, rfl⟩
      | loadProgram program =>
          simp only [Machine.apply, Machine.loadProgram]
          rcases left.memory.loadProgram program with ⟨memory, _ | fault⟩ <;> exact ⟨rfl, rfl⟩
      | _ => cases gentle

/-- What paints makes two such machines equal. -/
theorem eq_of_paints (same : SameButMark left right) {operation : Operation}
    (paints : left.Paints operation) : (left.apply operation).1 = (right.apply operation).1 := by
  rcases paints with rfl | ⟨rfl, running, succeeded, instruction, found, painted⟩
  · rw [same]
    rfl
  · obtain ⟨_, also, executed⟩ := execute_of_cycle running succeeded
    obtain rfl := Option.some.inj (found.symm.trans also)
    have fetched : SameButMark left.fetched right.fetched := by
      rw [same]
      rfl
    have next : right.nextInstruction? = some instruction := by
      rw [same]
      exact found
    have both := fetched.execute_of_paints painted
    rw [executed] at both
    generalize result : right.fetched.execute instruction = success at both
    cases both with
    | executed equal =>
        have cycled := cycle_of_execute (same.alike.paused.trans running) next result
        exact equal.trans (congrArg Prod.fst cycled).symm

end SameButMark

/-- The second machine is the first but for the mark of its picture, and the very same once it was
painted. -/
structure SameOncePainted (painted : Prop) (left right : Machine) : Prop where
  same : SameButMark left right
  equal : painted → left = right

theorem SameOncePainted.apply {painted : Prop} (before : SameOncePainted painted left right)
    (operation : Operation) :
    (right.apply operation).2 = (left.apply operation).2 ∧
      SameOncePainted (painted ∨ left.Paints operation) (left.apply operation).1
        (right.apply operation).1 := by
  obtain ⟨replied, next⟩ := before.same.apply operation
  refine ⟨replied, next, ?_⟩
  rintro (already | paints)
  · exact congrArg (fun machine => (machine.apply operation).1) (before.equal already)
  · exact before.same.eq_of_paints paints

/-! ### Runs -/

/-- One of the first operations of a run paints. -/
def PaintsWithin (machine : Machine) (operations : List Operation) (count : Nat) : Prop :=
  machine.HappensWithin operations count Paints

theorem SameButMark.run (same : SameButMark left right) (operations : List Operation) :
    (right.run operations).2 = (left.run operations).2 ∧
      ∀ count ≤ operations.length,
        SameOncePainted (left.PaintsWithin operations count)
          (left.run (operations.take count)).1 (right.run (operations.take count)).1 := by
  refine coupled_run ⟨same, fun painted => absurd painted not_happensWithin_zero⟩ ?_
  intro count operation found first second before
  obtain ⟨replied, next⟩ := before.apply operation
  refine ⟨replied, next.same, fun painted => next.equal ?_⟩
  exact (happensWithin_succ_iff found).mp painted

/-- A reset forgets the past.

Whatever a machine has gone through: from a reset on it answers every run of operations as a fresh
machine does that has its memory, its random source and its pause and writes traces if it does, and
the two go through the same states. Only the marks of their pictures may differ, and those only
until an operation paints. -/
theorem run_of_reset (machine : Machine) (operations : List Operation) :
    let anew := { fresh machine.random machine.tracing with
      memory := machine.memory, paused := machine.paused }
    (machine.reset.run operations).2 = (anew.run operations).2 ∧
      ∀ count ≤ operations.length,
        let left := (machine.reset.run (operations.take count)).1
        let right := (anew.run (operations.take count)).1
        right = { left with screen := left.screen.setMark right.screen.mark } ∧
          (machine.reset.PaintsWithin operations count → left = right) := by
  intro anew
  have same : SameButMark machine.reset anew := rfl
  obtain ⟨replies, states⟩ := same.run operations
  refine ⟨replies.symm, fun count within => ?_⟩
  obtain ⟨same, equal⟩ := states count within
  exact ⟨same, equal⟩

end Chip8.Machine
