import Chip8.Machine.Operation
import Chip8.Proofs.Execution

/-!
The bounds that every run keeps the machine's numbers in.

* `Cpu.Bounded` — the invariant of the processor's numbers. The bound on the program counter and
  the one on the return addresses rest on each other, and both on the check of every fetch.
* `bounded_execute`, `bounded_cycle`, `bounded_apply`, `bounded_run` — an instruction, a cycle, an
  operation and a run keep it.
* `bounds_of_run` — the bounds of everything a run from a fresh machine leaves.
-/

namespace Chip8

namespace Cpu

/-- The bounds of the processor's numbers. -/
structure Bounded (cpu : Cpu) : Prop where
  index : 0 ≤ cpu.i ∧ cpu.i ≤ 0xFFFF
  delay : 0 ≤ cpu.delay ∧ cpu.delay ≤ 0xFF
  sound : 0 ≤ cpu.sound ∧ cpu.sound ≤ 0xFF
  pc : 0 ≤ cpu.pc ∧ cpu.pc ≤ 0x10FE
  fetchedAt : 0 ≤ cpu.fetchedAt ∧ cpu.fetchedAt ≤ 0x10FE
  opcode : 0 ≤ cpu.opcode ∧ cpu.opcode ≤ 0xFFFF
  capacity : cpu.stack.capacity = 16
  depth : cpu.stack.entries.length ≤ 16
  addresses : ∀ address ∈ cpu.stack.entries, 2 ≤ address ∧ address ≤ 0x1000

variable {cpu : Cpu}

theorem bounded_initial : (Cpu.initial Memory.programStart).Bounded := by
  constructor <;> decide

namespace Bounded

/-- Registers are bytes whatever is put into them. -/
theorem withV (bounded : cpu.Bounded) (v : Vector UInt8 16) : ({ cpu with v } : Cpu).Bounded :=
  { bounded with }

theorem withIndex (bounded : cpu.Bounded) {i : Int} (low : 0 ≤ i) (high : i ≤ 0xFFFF) :
    ({ cpu with i } : Cpu).Bounded :=
  { bounded with index := ⟨low, high⟩ }

theorem withPc (bounded : cpu.Bounded) {pc : Int} (low : 0 ≤ pc) (high : pc ≤ 0x10FE) :
    ({ cpu with pc } : Cpu).Bounded :=
  { bounded with pc := ⟨low, high⟩ }

/-- A timer takes any byte. -/
theorem withDelay (bounded : cpu.Bounded) (byte : UInt8) :
    ({ cpu with delay := byte.toNat } : Cpu).Bounded :=
  { bounded with delay := by have := byte.toNat_lt; simp only; omega }

theorem withSound (bounded : cpu.Bounded) (byte : UInt8) :
    ({ cpu with sound := byte.toNat } : Cpu).Bounded :=
  { bounded with sound := by have := byte.toNat_lt; simp only; omega }

theorem tick (bounded : cpu.Bounded) : cpu.tick.Bounded :=
  { bounded with
    delay := by have := bounded.delay; simp only [Cpu.tick]; split <;> omega
    sound := by have := bounded.sound; simp only [Cpu.tick]; split <;> omega }

/-- A skip leads past the end of memory at most. -/
theorem skipIf (bounded : cpu.Bounded) (high : cpu.pc ≤ 0x1000) (condition : Bool) :
    (cpu.skipIf condition).Bounded := by
  have low := bounded.pc.1
  cases condition with
  | false => exact bounded
  | true =>
      have width : (Opcode.width : Int) = 2 := rfl
      exact bounded.withPc (by omega) (by omega)

/-- A call leaves the address behind it, which the check of its fetch has bounded. -/
theorem call (bounded : cpu.Bounded) (low : 2 ≤ cpu.pc) (high : cpu.pc ≤ 0x1000)
    (room : cpu.stack.entries.length < 16) (target : Address) :
    ({ cpu with
      pc := target.val
      stack := { cpu.stack with entries := cpu.pc :: cpu.stack.entries } } : Cpu).Bounded :=
  { bounded with
    pc := by simp only; omega
    capacity := bounded.capacity
    depth := by simp only [List.length_cons]; omega
    addresses := by
      intro address member
      rcases List.mem_cons.mp member with rfl | member
      · exact ⟨low, high⟩
      · exact bounded.addresses address member }

/-- A return goes where a call has left an address. -/
theorem ret (bounded : cpu.Bounded) {address : Int} {rest : List Int}
    (entries : cpu.stack.entries = address :: rest) :
    ({ cpu with pc := address, stack := { cpu.stack with entries := rest } } : Cpu).Bounded := by
  have depth := bounded.depth
  have addresses := bounded.addresses
  rw [entries] at depth addresses
  rw [List.length_cons] at depth
  have top := addresses address List.mem_cons_self
  exact { bounded with
    pc := by simp only; omega
    capacity := bounded.capacity
    depth := by simp only; omega
    addresses := fun other member => addresses other (List.mem_cons_of_mem _ member) }

end Bounded

end Cpu

namespace Machine

theorem bounded_execute {machine next : Machine} {instruction : Instruction}
    (bounded : machine.cpu.Bounded) (low : 2 ≤ machine.cpu.pc) (high : machine.cpu.pc ≤ 0x1000)
    (succeeded : machine.execute instruction = (next, none)) : next.cpu.Bounded := by
  cases instruction with
  | sys _ | clear => cases succeeded; exact bounded
  | loadByte x byte | addByte x byte | random x mask => cases succeeded; exact bounded.withV _
  | load x y | or x y | and x y | xor x y => cases succeeded; exact bounded.withV _
  | add x y | sub x y | subFrom x y | shiftRight x y | shiftLeft x y =>
      cases succeeded
      exact bounded.withV _
  | skipEqualByte x byte | skipUnequalByte x byte | skipEqual x y | skipUnequal x y =>
      cases succeeded
      exact bounded.skipIf high _
  | skipDown x =>
      rw [execute_skipDown] at succeeded
      cases succeeded
      exact bounded.skipIf high _
  | skipUp x =>
      rw [execute_skipUp] at succeeded
      cases succeeded
      exact bounded.skipIf high _
  | setDelay x => cases succeeded; exact bounded.withDelay _
  | setSound x => cases succeeded; exact bounded.withSound _
  | jump target =>
      cases succeeded
      exact bounded.withPc (by omega) (by omega)
  | jumpOffset target =>
      have offset := (machine.cpu.v.get 0).toNat_lt
      cases succeeded
      exact bounded.withPc (by omega) (by omega)
  | loadIndex target =>
      cases succeeded
      exact bounded.withIndex (by omega) (by omega)
  | addIndex x =>
      cases succeeded
      exact bounded.withIndex (by omega) (by omega)
  | pointGlyph x =>
      cases succeeded
      exact bounded.withIndex (by simp only [Font.glyphLocation]; omega)
        (by simp only [Font.glyphLocation, Font.location, Font.height]; omega)
  | call target =>
      rw [execute_call, bounded.capacity] at succeeded
      obtain ⟨room, rfl⟩ := of_check_passed succeeded
      exact bounded.call low high (by omega) target
  | ret =>
      rw [execute_ret] at succeeded
      cases entries : machine.cpu.stack.entries with
      | nil =>
          rw [entries] at succeeded
          cases succeeded
          exact bounded
      | cons address rest =>
          rw [entries] at succeeded
          cases succeeded
          exact bounded.ret entries
  | awaitKey x =>
      simp only [execute, awaitKey] at succeeded
      split at succeeded
      · cases succeeded
        exact bounded.withV _
      · cases succeeded
        exact bounded.withPc (by omega) (by omega)
  | readDelay _ | draw _ _ _ | loadRegisters _ =>
      simp only [execute_readDelay, execute_draw, execute_loadRegisters] at succeeded
      obtain ⟨-, rfl⟩ := of_check_passed succeeded
      exact bounded.withV _
  | storeDecimal _ | storeRegisters _ =>
      simp only [execute_storeDecimal, execute_storeRegisters] at succeeded
      obtain ⟨-, rfl⟩ := of_check_passed succeeded
      exact bounded

theorem bounded_unfetched {machine : Machine} (bounded : machine.cpu.Bounded) :
    machine.unfetched.cpu.Bounded :=
  { bounded with fetchedAt := bounded.pc }

/-- A fetch succeeds below the end of memory, so the program counter lies at most at the end. -/
theorem bounded_fetched {machine : Machine} (bounded : machine.cpu.Bounded)
    (inside : Memory.InRange machine.cpu.pc 2) :
    machine.fetched.cpu.Bounded ∧
      2 ≤ machine.fetched.cpu.pc ∧ machine.fetched.cpu.pc ≤ 0x1000 := by
  have low := bounded.pc.1
  have high := (Memory.inRange_iff_of_nonneg 2 low).mp inside
  have advanced : machine.fetched.cpu.pc = machine.cpu.pc + 2 := rfl
  have small : machine.nextWord < 0x10000 := machine.memory.wordAt_lt _
  have bounds : 2 ≤ machine.fetched.cpu.pc ∧ machine.fetched.cpu.pc ≤ 0x1000 := by omega
  refine ⟨?_, bounds⟩
  exact { bounded with
    pc := by omega
    fetchedAt := bounded.pc
    opcode := by simp only [fetched, withCpu]; omega }

theorem bounded_cycle {machine : Machine} (bounded : machine.cpu.Bounded) :
    machine.cycle.1.cpu.Bounded := by
  have outcome := machine.outcome_cycle
  generalize machine.cycle = ended at outcome ⊢
  cases outcome with
  | paused _ => exact bounded
  | unfetched _ _ => exact bounded_unfetched bounded
  | undecoded _ inside _ => exact (bounded_fetched bounded inside).1
  | refused _ inside _ _ => exact (bounded_fetched bounded inside).1
  | executed _ inside _ succeeded =>
      obtain ⟨fetched, low, high⟩ := bounded_fetched bounded inside
      exact bounded_execute fetched low high succeeded

theorem bounded_apply {machine : Machine} (bounded : machine.cpu.Bounded)
    (operation : Operation) : (machine.apply operation).1.cpu.Bounded := by
  rcases machine.frame_apply operation with rfl | rfl | rfl | ⟨_, _, _, framed⟩
  · exact bounded_cycle bounded
  · simp only [apply, Machine.tick]
    split
    · exact bounded
    · exact bounded.tick
  · exact Cpu.bounded_initial
  · rw [framed]
    exact bounded

theorem bounded_run {machine : Machine} (bounded : machine.cpu.Bounded)
    (operations : List Operation) : (machine.run operations).1.cpu.Bounded := by
  induction operations generalizing machine with
  | nil => exact bounded
  | cons operation rest ih => exact ih (bounded_apply bounded operation)

/-! ### Reachable machines -/

/-- A run of operations has made the machine from a fresh one. -/
def Reachable (machine : Machine) : Prop :=
  ∃ random tracing operations, ((fresh random tracing).run operations).1 = machine

/-- The machine after some cycles of a program. -/
def afterCycles (program : List UInt8) (count : Nat) : Machine :=
  ((fresh (.cycling []) false).run (.loadProgram program :: List.replicate count .cycle)).1

theorem reachable_afterCycles (program : List UInt8) (count : Nat) :
    (afterCycles program count).Reachable :=
  ⟨_, _, _, rfl⟩

theorem Reachable.bounded {machine : Machine} (reachable : machine.Reachable) :
    machine.cpu.Bounded := by
  obtain ⟨random, tracing, operations, rfl⟩ := reachable
  exact bounded_run Cpu.bounded_initial operations

/-- After any run from a fresh machine, with any random answers and going on after failures, every
number is within its bounds and every part has its size. -/
theorem bounds_of_run (random : RandomSource) (tracing : Bool) (operations : List Operation) :
    let machine := ((fresh random tracing).run operations).1
    (0 ≤ machine.cpu.i ∧ machine.cpu.i ≤ 0xFFFF) ∧
      (0 ≤ machine.cpu.delay ∧ machine.cpu.delay ≤ 0xFF) ∧
      (0 ≤ machine.cpu.sound ∧ machine.cpu.sound ≤ 0xFF) ∧
      (0 ≤ machine.cpu.pc ∧ machine.cpu.pc ≤ 0x10FE) ∧
      (0 ≤ machine.cpu.fetchedAt ∧ machine.cpu.fetchedAt ≤ 0x10FE) ∧
      (0 ≤ machine.cpu.opcode ∧ machine.cpu.opcode ≤ 0xFFFF) ∧
      machine.cpu.v.toList.length = 16 ∧
      machine.cpu.stack.toList.length ≤ 16 ∧
      (∀ address ∈ machine.cpu.stack.toList, 2 ≤ address ∧ address ≤ 0x1000) ∧
      machine.memory.cells.toList.length = 4096 ∧
      machine.screen.dump.length = 2048 ∧
      (∀ pixel ∈ machine.screen.dump, pixel = 0 ∨ pixel = 1) ∧
      machine.keypad.keys.toList.length = 16 := by
  intro machine
  have bounded : machine.cpu.Bounded := bounded_run Cpu.bounded_initial operations
  refine ⟨bounded.index, bounded.delay, bounded.sound, bounded.pc, bounded.fetchedAt,
    bounded.opcode, Vector.length_toList, ?_, ?_, Vector.length_toList, ?_,
    fun _ => Screen.eq_zero_or_one_of_mem_dump, Vector.length_toList⟩
  · rw [CallStack.toList, List.length_reverse]
    exact bounded.depth
  · intro address member
    exact bounded.addresses address (List.mem_reverse.mp member)
  · rw [Screen.length_dump]
    rfl

end Machine

end Chip8
