import Chip8.Proofs.Footprint

/-!
Calls and returns.

Whatever runs between a call and its return, nested calls, loops and faults included, can only put
entries on top of the call stack and take them off again. So long as the stack stays deeper than it
was before the call, the entries below are therefore the ones that the call found and left.

* `relates_apply` — one operation keeps the stack, pushes an entry or pops one.
* `base_of_run` — a run that stays as deep as some bottom part of the stack keeps that part.
* `return_of_call` — the return at the depth of the call goes behind the call and restores the
  stack.
-/

namespace Chip8

/-! ### Call stacks -/

/-- A stack is its capacity and its entries. -/
theorem CallStack.eq_of_toList {first second : CallStack}
    (capacity : first.capacity = second.capacity) (entries : first.toList = second.toList) :
    first = second := by
  obtain ⟨_, firstEntries⟩ := first
  obtain ⟨_, secondEntries⟩ := second
  obtain rfl : firstEntries = secondEntries := List.reverse_inj.mp entries
  cases capacity
  rfl

/-- What lies at the bottom of a stack stays there, unless the stack becomes less deep. -/
theorem StackEffect.keeps_base {effect : StackEffect} {base before after : List Int}
    (related : effect.Relates before after) (held : base <+: before)
    (deep : base.length ≤ after.length) : base <+: after := by
  cases effect with
  | kept =>
      obtain rfl : after = before := related
      exact held
  | pushed =>
      obtain ⟨address, rfl⟩ := related
      exact held.trans (List.prefix_append before [address])
  | popped =>
      obtain rfl : after = before.dropLast := related
      rw [List.dropLast_eq_take] at deep ⊢
      rw [List.length_take] at deep
      exact List.prefix_take_iff.mpr ⟨held, by omega⟩

namespace Machine

variable {machine : Machine}

/-- The number of calls that have not returned. -/
def depth (machine : Machine) : Nat := machine.cpu.stack.toList.length

/-! ### Runs -/

/-- A cycle keeps the stack, pushes an entry or pops one. -/
theorem relates_cycle (machine : Machine) :
    ∃ effect : StackEffect,
      effect.Relates machine.cpu.stack.toList machine.cycle.1.cpu.stack.toList := by
  have outcome := machine.outcome_cycle
  generalize machine.cycle = ended at outcome ⊢
  cases outcome with
  | paused _ | unfetched _ _ | undecoded _ _ _ | refused _ _ _ _ => exact ⟨.kept, rfl⟩
  | executed _ _ _ executed => exact ⟨_, (confined_execute executed).stack⟩

theorem relates_apply (machine : Machine) {operation : Operation} (kept : operation ≠ .reset) :
    ∃ effect : StackEffect,
      effect.Relates machine.cpu.stack.toList
        (machine.apply operation).1.cpu.stack.toList := by
  rcases machine.frame_apply operation with rfl | rfl | rfl | ⟨_, _, _, framed⟩
  · exact machine.relates_cycle
  · refine ⟨.kept, ?_⟩
    simp only [apply, tick]
    split <;> rfl
  · exact absurd rfl kept
  · rw [framed]
    exact ⟨.kept, rfl⟩

/-- A run that never becomes less deep than `base` keeps `base` at the bottom of the stack. -/
theorem base_of_run {base : List Int} {operations : List Operation}
    (held : base <+: machine.cpu.stack.toList) (kept : .reset ∉ operations)
    (deep : ∀ count ≤ operations.length,
      base.length ≤ (machine.run (operations.take count)).1.depth) :
    base <+: (machine.run operations).1.cpu.stack.toList := by
  induction operations generalizing machine with
  | nil => exact held
  | cons operation rest ih =>
      rw [List.mem_cons, not_or] at kept
      obtain ⟨effect, related⟩ := machine.relates_apply (Ne.symm kept.1)
      have next : base <+: (machine.apply operation).1.cpu.stack.toList :=
        effect.keeps_base related held (deep 1 (by simp))
      refine ih next kept.2 ?_
      intro count within
      exact deep (count + 1) (by simpa using within)

/-! ### Calls and returns -/

/-- A call that has room goes to its target and leaves the address behind it on the stack. -/
theorem cycle_of_call {target : Address} (bounded : machine.cpu.Bounded)
    (running : machine.paused = false) (calls : machine.nextInstruction? = some (.call target))
    (room : machine.depth ≤ 15) :
    machine.cycle.2.failure = none ∧
      machine.cycle.1.cpu.stack.toList = machine.cpu.stack.toList ++ [machine.cpu.pc + 2] := by
  have level : machine.depth = machine.cpu.stack.entries.length := List.length_reverse
  have free : machine.cpu.stack.entries.length < machine.cpu.stack.capacity := by
    rw [bounded.capacity]
    omega
  have executed := (machine.fetched.execute_call target).trans (if_pos free)
  rw [cycle_of_execute running calls executed]
  exact ⟨rfl, List.reverse_cons⟩

/-- A return goes to the newest entry and takes it off the stack. -/
theorem cycle_of_ret {rest : List Int} {address : Int} (running : machine.paused = false)
    (returns : machine.nextInstruction? = some .ret)
    (entries : machine.cpu.stack.toList = rest ++ [address]) :
    machine.cycle.2.failure = none ∧ machine.cycle.1.cpu.pc = address ∧
      machine.cycle.1.cpu.stack.toList = rest := by
  have newest : machine.fetched.cpu.stack.entries = address :: rest.reverse := by
    show machine.cpu.stack.entries = _
    rw [← List.reverse_reverse machine.cpu.stack.entries]
    show machine.cpu.stack.toList.reverse = _
    rw [entries, List.reverse_append]
    rfl
  have executed : machine.fetched.execute .ret = (machine.fetched.withCpu
      { machine.fetched.cpu with
        pc := address
        stack := { machine.fetched.cpu.stack with entries := rest.reverse } }, none) := by
    rw [execute_ret, newest]
  rw [cycle_of_execute running returns executed]
  exact ⟨rfl, rfl, List.reverse_reverse rest⟩

/-- Calls return. After a call, whatever a host and the program do short of a reset, and so long as
the stack stays deeper than before the call: the return that finds only the entry of the call above
the old stack goes to the instruction behind the call and restores the stack. -/
theorem return_of_call {target : Address} {operations : List Operation}
    (reachable : machine.Reachable) (running : machine.paused = false)
    (calls : machine.nextInstruction? = some (.call target)) (room : machine.depth ≤ 15)
    (kept : .reset ∉ operations)
    (nested : ∀ count ≤ operations.length,
      machine.depth + 1 ≤ (machine.cycle.1.run (operations.take count)).1.depth)
    (awake : (machine.cycle.1.run operations).1.paused = false)
    (returns : (machine.cycle.1.run operations).1.nextInstruction? = some .ret)
    (level : (machine.cycle.1.run operations).1.depth = machine.depth + 1) :
    let ended := (machine.cycle.1.run operations).1.cycle
    ended.2.failure = none ∧ ended.1.cpu.pc = machine.cpu.pc + 2 ∧
      ended.1.cpu.stack = machine.cpu.stack := by
  have bounded := reachable.bounded
  obtain ⟨-, entered⟩ := cycle_of_call bounded running calls room
  have size : machine.cycle.1.cpu.stack.toList.length = machine.depth + 1 := by
    rw [entered, List.length_append]
    rfl
  have bottom : machine.cycle.1.cpu.stack.toList <+:
      (machine.cycle.1.run operations).1.cpu.stack.toList := by
    refine base_of_run (List.prefix_refl _) kept ?_
    intro count within
    rw [size]
    exact nested count within
  have entries := (bottom.eq_of_length (size.trans level.symm)).symm.trans entered
  obtain ⟨succeeded, pc, restored⟩ := cycle_of_ret awake returns entries
  have capacity := (bounded_cycle (bounded_run (bounded_cycle bounded) operations)).capacity
  exact ⟨succeeded, pc, CallStack.eq_of_toList (capacity.trans bounded.capacity.symm) restored⟩

/-- A subroutine that calls another one, while the host pauses the machine and presses a key:
`CALL 0x206`, and at `0x206` `CALL 0x20a`, `RET` and `RET`. -/
theorem return_of_call_nested :
    let machine := afterCycles
      [0x22, 0x06, 0x12, 0x02, 0x00, 0x00, 0x22, 0x0A, 0x00, 0xEE, 0x00, 0xEE] 0
    let operations : List Operation :=
      [.cycle, .tick, .pause, .cycle, .resume, .setKey 3 true, .cycle]
    let ended := (machine.cycle.1.run operations).1.cycle
    ended.2.failure = none ∧ ended.1.cpu.pc = 0x202 ∧ ended.1.cpu.stack = machine.cpu.stack := by
  have facts :
      let machine := afterCycles
        [0x22, 0x06, 0x12, 0x02, 0x00, 0x00, 0x22, 0x0A, 0x00, 0xEE, 0x00, 0xEE] 0
      let operations : List Operation :=
        [.cycle, .tick, .pause, .cycle, .resume, .setKey 3 true, .cycle]
      let last := (machine.cycle.1.run operations).1
      (machine.paused = false ∧ machine.cpu.pc = 0x200 ∧ machine.depth = 0 ∧
        machine.nextInstruction? = some (.call 0x206)) ∧
      .reset ∉ operations ∧
      (∀ count ≤ operations.length,
        machine.depth + 1 ≤ (machine.cycle.1.run (operations.take count)).1.depth) ∧
      last.paused = false ∧ last.nextInstruction? = some .ret ∧ last.depth = machine.depth + 1 := by
    decide +kernel
  have reachable := reachable_afterCycles
    [0x22, 0x06, 0x12, 0x02, 0x00, 0x00, 0x22, 0x0A, 0x00, 0xEE, 0x00, 0xEE] 0
  generalize afterCycles
    [0x22, 0x06, 0x12, 0x02, 0x00, 0x00, 0x22, 0x0A, 0x00, 0xEE, 0x00, 0xEE] 0 = machine
    at facts reachable ⊢
  obtain ⟨⟨running, start, outermost, calls⟩, kept, nested, awake, returns, level⟩ := facts
  have returned := return_of_call reachable running calls (by omega) kept nested awake returns level
  rw [start] at returned
  exact returned

end Machine

end Chip8
