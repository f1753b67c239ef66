import Chip8.Proofs.Coupling
import Chip8.Proofs.Footprint
import Chip8.Proofs.Image

/-!
Memory that is not read.

* `Reads`, `Overwrites` — the addresses that a cycle reads from, and those that an operation writes
  to.
* `cell_apply` — bytes that an operation does not write stay as they are.
* `cell_of_execute` — the memory that an instruction leaves, as an array.
* `AgreeOff` — two machines that differ at some addresses of their memories, and nowhere else.
* `AgreeOff.apply` — an operation that reads from none of these addresses is answered alike by both,
  and leaves them different at no address that it has written to.
* `run_of_unread` — the same for runs of operations.
-/

namespace Chip8

/-- So many bytes are read from the one on that the index register points at. -/
def Instruction.loaded : Instruction → Nat
  | .draw _ _ rows => rows.val
  | .loadRegisters x => x.val + 1
  | _ => 0

/-- The address is that of one of the `size` bytes from `location` on. -/
def Memory.Within (location size : Int) (address : Nat) : Prop :=
  location ≤ address ∧ address < location + size

instance Memory.Within.decidable (location size : Int) (address : Nat) :
    Decidable (Memory.Within location size address) :=
  inferInstanceAs (Decidable (_ ∧ _))

namespace Machine

open Memory (InRange Within Image)

variable {machine left right : Machine} {instruction : Instruction}

/-! ### Reading and writing -/

/-- A cycle reads the byte at an address: in the word that it fetches, or in the block that its
instruction reads. What is out of range is not read at all. -/
def Reads (machine : Machine) (address : Nat) : Prop :=
  machine.paused = false ∧
    (InRange machine.cpu.pc 2 ∧ Within machine.cpu.pc 2 address ∨
      ∃ instruction, machine.nextInstruction? = some instruction ∧
        InRange machine.cpu.i instruction.loaded ∧
        Within machine.cpu.i instruction.loaded address)

instance Reads.decidable (machine : Machine) (address : Nat) : Decidable (machine.Reads address) :=
  inferInstanceAs (Decidable (_ ∧ (_ ∨ ∃ instruction ∈ machine.nextInstruction?,
    InRange machine.cpu.i instruction.loaded ∧ Within machine.cpu.i instruction.loaded address)))

/-- An operation writes the byte at an address: in the block that an instruction stores, or in a
program that is loaded. -/
def Overwrites (machine : Machine) : Operation → Nat → Prop
  | .cycle, address =>
      machine.paused = false ∧ machine.cycle.2.failure = none ∧
        ∃ instruction, machine.nextInstruction? = some instruction ∧
          Within machine.cpu.i instruction.footprint.stored address
  | .loadProgram program, address =>
      InRange Memory.programStart program.length ∧
        Within Memory.programStart program.length address
  | _, _ => False

instance Overwrites.decidable (machine : Machine) (operation : Operation) (address : Nat) :
    Decidable (machine.Overwrites operation address) :=
  match operation with
  | .cycle => inferInstanceAs (Decidable (_ ∧ _ ∧ ∃ instruction ∈ machine.nextInstruction?,
      Within machine.cpu.i instruction.footprint.stored address))
  | .loadProgram _ => inferInstanceAs (Decidable (_ ∧ _))
  | .tick | .reset | .pause | .resume | .setKey _ _ | .setKeys _ =>
      inferInstanceAs (Decidable False)

theorem apply_loadProgram {program : List UInt8}
    (inside : InRange Memory.programStart program.length) :
    machine.apply (.loadProgram program) =
      ({ machine with memory :=
          ⟨Memory.store machine.memory.cells (Memory.programStart : Int).toNat program⟩ }, {}) := by
  simp only [apply, loadProgram, Memory.loadProgram_eq, Memory.writeBlock_eq, if_pos inside]
  rfl

theorem apply_loadProgram_of_beyond {program : List UInt8}
    (beyond : ¬ InRange Memory.programStart program.length) :
    machine.apply (.loadProgram program) =
      (machine, { failure := some {
        fault := .memory (.outOfRange Memory.programStart program.length)
        report := none } }) := by
  simp only [apply, loadProgram, Memory.loadProgram_eq, Memory.writeBlock_eq, if_neg beyond]
  rfl

/-- A byte that an operation does not write stays as it is. -/
theorem cell_apply {operation : Operation} {address : Nat}
    (kept : ¬ machine.Overwrites operation address) :
    (machine.apply operation).1.memory.cell address = machine.memory.cell address := by
  cases operation with
  | cycle =>
      simp only [Overwrites] at kept
      simp only [apply]
      have outcome := machine.outcome_cycle
      generalize machine.cycle = ended at outcome kept ⊢
      cases outcome with
      | paused _ | unfetched _ _ | undecoded _ _ _ | refused _ _ _ _ => rfl
      | executed running inside known succeeded =>
          have found := nextInstruction?_eq_some_iff.mpr ⟨inside, known⟩
          apply (confined_execute succeeded).memory address
          intro within
          exact kept ⟨running, rfl, _, found, within⟩
  | loadProgram program =>
      by_cases inside : InRange Memory.programStart program.length
      · have outside := not_and.mp kept inside
        have cells := machine.memory.cell_put_of_inRange inside
        rw [apply_loadProgram inside]
        refine (congrFun cells address).trans (if_neg fun place => outside ?_)
        simp only [Within]
        omega
      · rw [apply_loadProgram_of_beyond inside]
  | tick =>
      simp only [apply, tick]
      split <;> rfl
  | reset | pause | resume => rfl
  | setKey key down =>
      obtain ⟨keypad, framed⟩ := machine.frame_setKey key down
      rw [framed]
  | setKeys states =>
      obtain ⟨keypad, framed⟩ := machine.frame_setKeys states
      rw [framed]

/-- The bytes that an instruction stores where the index register points. -/
def storedBlock (machine : Machine) : Instruction → List UInt8
  | .storeDecimal x => decimalDigits (machine.cpu.v.get x)
  | .storeRegisters x => machine.cpu.v.toList.take (x.val + 1)
  | _ => []

theorem length_storedBlock (machine : Machine) (instruction : Instruction) :
    (machine.storedBlock instruction).length = instruction.footprint.stored := by
  cases instruction with
  | storeRegisters x =>
      simp only [storedBlock, Instruction.footprint, List.length_take, Vector.length_toList]
      omega
  | _ => rfl

/-- The memory that an instruction leaves. -/
theorem cell_of_execute {next : Machine} (succeeded : machine.execute instruction = (next, none)) :
    next.memory.cell =
      Image.put machine.memory.cell machine.cpu.i.toNat (machine.storedBlock instruction) := by
  cases instruction with
  | storeDecimal x =>
      rw [execute_storeDecimal] at succeeded
      obtain ⟨inside, rfl⟩ := of_check_passed succeeded
      exact machine.memory.cell_put_of_inRange inside
  | storeRegisters x =>
      have size := machine.length_storedBlock (.storeRegisters x)
      rw [execute_storeRegisters] at succeeded
      obtain ⟨inside, rfl⟩ := of_check_passed succeeded
      exact machine.memory.cell_put_of_inRange (size.symm ▸ inside)
  | _ =>
      have kept := (confined_execute succeeded).memory
      funext address
      refine (kept address ?_).trans (if_neg ?_).symm
      · simp only [Instruction.footprint]
        omega
      · simp only [storedBlock, List.length_nil]
        omega

theorem blockAtIndex_eq_slice {size : Nat} (inside : InRange machine.cpu.i size) :
    machine.blockAtIndex size = Image.slice machine.memory.cell machine.cpu.i.toNat size :=
  machine.memory.extract_of_inRange inside

/-- Under a block it does not matter what has been there. -/
theorem put_of_within {first second : Image} {location : Int} {block : List UInt8} {address : Nat}
    (within : Within location block.length address) :
    Image.put first location.toNat block address =
      Image.put second location.toNat block address := by
  obtain ⟨low, high⟩ := within
  have place : location.toNat ≤ address ∧ address < location.toNat + block.length := by omega
  simp only [Image.put, if_pos place]

/-! ### Machines that differ in their memories -/

/-- The two machines differ at some addresses of their memories at most. -/
structure AgreeOff (differs : Nat → Prop) (left right : Machine) : Prop where
  rest : right = { left with memory := right.memory }
  cell : ∀ address, ¬ differs address → right.memory.cell address = left.memory.cell address

namespace AgreeOff

variable {differs : Nat → Prop}

theorem cpu (agree : AgreeOff differs left right) : right.cpu = left.cpu := by rw [agree.rest]

theorem screen (agree : AgreeOff differs left right) : right.screen = left.screen := by
  rw [agree.rest]

theorem wordAt (agree : AgreeOff differs left right) {location : Int}
    (inside : InRange location 2)
    (unread : ∀ address, Within location 2 address → ¬ differs address) :
    right.memory.wordAt location.toNat = left.memory.wordAt location.toNat := by
  have low : 0 ≤ location := inside.1
  have first := agree.cell location.toNat (unread _ ⟨by omega, by omega⟩)
  have second := agree.cell (location.toNat + 1) (unread _ ⟨by omega, by omega⟩)
  simp only [Memory.wordAt, first, second]

theorem blockAtIndex (agree : AgreeOff differs left right) {size : Nat}
    (inside : InRange left.cpu.i size)
    (unread : ∀ address, Within left.cpu.i size address → ¬ differs address) :
    right.blockAtIndex size = left.blockAtIndex size := by
  have low : 0 ≤ left.cpu.i := inside.1
  rw [blockAtIndex_eq_slice inside, blockAtIndex_eq_slice (agree.cpu.symm ▸ inside), agree.cpu]
  refine List.map_congr_left fun offset member => ?_
  have short := List.mem_range.mp member
  exact agree.cell _ (unread _ ⟨by omega, by omega⟩)

/-- Both go on with another processor state. -/
theorem withCpu (agree : AgreeOff differs left right) (cpu : Cpu) :
    AgreeOff differs (left.withCpu cpu) (right.withCpu cpu) where
  rest := by
    rw [agree.rest]
    rfl
  cell := agree.cell

/-- The same block over both memories leaves no new difference. -/
theorem store (agree : AgreeOff differs left right) {location : Int} {block : List UInt8}
    (inside : InRange location block.length) :
    AgreeOff differs
      { left with memory := ⟨Memory.store left.memory.cells location.toNat block⟩ }
      { left with memory := ⟨Memory.store right.memory.cells location.toNat block⟩ } where
  rest := rfl
  cell := by
    intro address same
    have kept := agree.cell address same
    simp only [left.memory.cell_put_of_inRange inside, right.memory.cell_put_of_inRange inside,
      Image.put, kept]

/-- An instruction that reads no byte in which two machines differ does the same in both. -/
theorem execute (agree : AgreeOff differs left right) (instruction : Instruction)
    (unread : InRange left.cpu.i instruction.loaded →
      ∀ address, Within left.cpu.i instruction.loaded address → ¬ differs address) :
    Coupled (AgreeOff differs) (left.execute instruction) (right.execute instruction) := by
  cases internal : instruction.isInternal with
  | true =>
      -- The second machine is the first with another memory, which stays what it is.
      have refitted : right.execute instruction = _ :=
        (congrArg (fun machine => machine.execute instruction) agree.rest).trans
          (left.execute_refit right.memory left.screen internal)
      rw [refitted]
      refine coupled_map _ fun next succeeded => ?_
      obtain ⟨memory, screen⟩ := fit_of_internal internal succeeded
      exact ⟨by rw [← screen]; rfl, by rw [memory]; exact agree.cell⟩
  | false =>
      cases instruction with
      | clear =>
          rw [agree.rest]
          exact .executed ⟨rfl, agree.cell⟩
      | draw x y rows =>
          rw [left.execute_draw, right.execute_draw, agree.cpu]
          refine coupled_check fun inside => ?_
          have drawn : right.drawnCells x y rows = left.drawnCells x y rows := by
            simp only [drawnCells, agree.cpu, agree.screen,
              agree.blockAtIndex inside (unread inside)]
          rw [drawn, agree.rest]
          exact ⟨rfl, agree.cell⟩
      | loadRegisters x =>
          rw [left.execute_loadRegisters, right.execute_loadRegisters, agree.cpu]
          refine coupled_check fun inside => ?_
          rw [agree.blockAtIndex inside (unread inside)]
          exact agree.withCpu _
      | storeDecimal x =>
          rw [left.execute_storeDecimal, right.execute_storeDecimal, agree.cpu]
          refine coupled_check fun inside => ?_
          rw [agree.rest]
          exact agree.store inside
      | storeRegisters x =>
          have size := left.length_storedBlock (.storeRegisters x)
          rw [left.execute_storeRegisters, right.execute_storeRegisters, agree.cpu]
          refine coupled_check fun inside => ?_
          rw [agree.rest]
          exact agree.store (size.symm ▸ inside)
      | _ => cases internal

/-! ### Operations -/

theorem alike (agree : AgreeOff differs left right)
    (unread : ∀ address, left.Reads address → ¬ differs address) : Alike left right where
  cpu := agree.cpu
  paused := by rw [agree.rest]
  tracing := by rw [agree.rest]
  word running inside := by
    unfold nextWord
    rw [agree.cpu]
    exact agree.wordAt inside fun address within => unread address ⟨running, .inl ⟨inside, within⟩⟩

/-- A cycle that reads no byte in which two machines differ is the same in both. -/
theorem cycle (agree : AgreeOff differs left right)
    (unread : ∀ address, left.Reads address → ¬ differs address) :
    right.cycle.2 = left.cycle.2 ∧ AgreeOff differs left.cycle.1 right.cycle.1 := by
  have alike := agree.alike unread
  have fetched (running : left.paused = false) (inside : InRange left.cpu.pc 2) :
      AgreeOff differs left.fetched right.fetched := by
    show AgreeOff differs (left.withCpu left.fetched.cpu) (right.withCpu right.fetched.cpu)
    rw [alike.cpu_fetched running inside]
    exact agree.withCpu _
  refine coupled_cycle alike agree ⟨by rw [agree.rest]; rfl, agree.cell⟩ fetched ?_
  intro instruction running found
  refine (fetched running (nextInstruction?_eq_some_iff.mp found).1).execute instruction ?_
  intro inside address within
  exact unread address ⟨running, .inr ⟨instruction, found, inside, within⟩⟩

/-- A program is loaded over the same cells of both, or of neither. -/
theorem loadProgram (agree : AgreeOff differs left right) (program : List UInt8) :
    (right.apply (.loadProgram program)).2 = (left.apply (.loadProgram program)).2 ∧
      AgreeOff differs (left.apply (.loadProgram program)).1
        (right.apply (.loadProgram program)).1 := by
  by_cases inside : InRange Memory.programStart program.length
  · rw [apply_loadProgram inside, apply_loadProgram inside, agree.rest]
    exact ⟨rfl, agree.store inside⟩
  · rw [apply_loadProgram_of_beyond inside, apply_loadProgram_of_beyond inside]
    exact ⟨rfl, agree⟩

/-- What an operation has written is the same in both. -/
theorem cell_of_overwrites (agree : AgreeOff differs left right) {operation : Operation}
    (unread : operation = .cycle → ∀ address, left.Reads address → ¬ differs address)
    {address : Nat} (overwrites : left.Overwrites operation address) :
    (right.apply operation).1.memory.cell address =
      (left.apply operation).1.memory.cell address := by
  cases operation with
  | cycle =>
      obtain ⟨running, succeeded, instruction, found, within⟩ := overwrites
      have alike := agree.alike (unread rfl)
      have replied := (agree.cycle (unread rfl)).1
      have found' := (alike.nextInstruction?_eq running).trans found
      obtain ⟨_, here, executed⟩ := execute_of_cycle running succeeded
      obtain ⟨_, there, executed'⟩ :=
        execute_of_cycle (alike.paused.trans running) (replied ▸ succeeded)
      obtain rfl := Option.some.inj (found.symm.trans here)
      obtain rfl := Option.some.inj (found'.symm.trans there)
      have size := left.fetched.length_storedBlock instruction
      have inside := (nextInstruction?_eq_some_iff.mp found).1
      have cpu := alike.cpu_fetched running inside
      have block :
          right.fetched.storedBlock instruction = left.fetched.storedBlock instruction := by
        unfold storedBlock
        rw [cpu]
      simp only [Machine.apply]
      rw [cell_of_execute executed, cell_of_execute executed', block, cpu]
      exact put_of_within (size.symm ▸ within)
  | loadProgram program =>
      obtain ⟨inside, within⟩ := overwrites
      rw [apply_loadProgram inside, apply_loadProgram inside]
      simp only [Memory.cell_put_of_inRange _ inside]
      exact put_of_within within
  | _ => exact absurd overwrites id

/-- An operation that reads no byte in which two machines differ is answered alike by both, and
leaves no difference where it has written. -/
theorem apply (agree : AgreeOff differs left right) {operation : Operation}
    (unread : operation = .cycle → ∀ address, left.Reads address → ¬ differs address) :
    (right.apply operation).2 = (left.apply operation).2 ∧
      AgreeOff (fun address => differs address ∧ ¬ left.Overwrites operation address)
        (left.apply operation).1 (right.apply operation).1 := by
  have kept : (right.apply operation).2 = (left.apply operation).2 ∧
      AgreeOff differs (left.apply operation).1 (right.apply operation).1 := by
    by_cases cycles : operation = .cycle
    · rw [cycles]
      exact agree.cycle (unread cycles)
    cases gentle : operation.isGentle with
    | true =>
        have applied : right.apply operation = _ :=
          (congrArg (fun machine => machine.apply operation) agree.rest).trans
            (left.apply_refit right.memory left.screen gentle cycles)
        obtain ⟨memory, screen⟩ := left.fit_of_gentle gentle cycles
        rw [applied]
        exact ⟨rfl, by rw [← screen]; rfl, by rw [memory]; exact agree.cell⟩
    | false =>
        cases operation with
        | reset =>
            rw [agree.rest]
            exact ⟨rfl, rfl, agree.cell⟩
        | loadProgram program => exact agree.loadProgram program
        | _ => cases gentle
  refine ⟨kept.1, kept.2.rest, fun address same => ?_⟩
  by_cases overwrites : left.Overwrites operation address
  · exact agree.cell_of_overwrites unread overwrites
  · exact kept.2.cell address fun differs => same ⟨differs, overwrites⟩

end AgreeOff

/-! ### Runs -/

/-- One of the first operations of a run writes the byte at an address. -/
def OverwritesWithin (machine : Machine) (operations : List Operation) (count address : Nat) :
    Prop :=
  machine.HappensWithin operations count fun machine operation =>
    machine.Overwrites operation address

/-- The cycles of a run read none of some bytes. -/
def LeavesUnread (machine : Machine) (operations : List Operation) (hidden : Nat → Prop) : Prop :=
  ∀ count < operations.length, operations[count]? = some .cycle →
    ∀ address, (machine.run (operations.take count)).1.Reads address → ¬ hidden address

/-- Memory that is not read does not matter.

Two machines may differ in some bytes of their memories. So long as the run of the first reads none
of these, the second answers every operation alike, and after every operation the two are the same
but for these bytes, of which no longer differs what has been written since. -/
theorem run_of_unread {hidden : Nat → Prop} {operations : List Operation}
    (agree : AgreeOff hidden left right) (unread : left.LeavesUnread operations hidden) :
    (right.run operations).2 = (left.run operations).2 ∧
      ∀ count ≤ operations.length,
        AgreeOff (fun address => hidden address ∧ ¬ left.OverwritesWithin operations count address)
          (left.run (operations.take count)).1 (right.run (operations.take count)).1 := by
  refine coupled_run ⟨agree.rest, fun address same => ?_⟩ ?_
  · exact agree.cell address fun differs => same ⟨differs, not_happensWithin_zero⟩
  intro count operation found first second agree
  obtain ⟨within, -⟩ := List.getElem?_eq_some_iff.mp found
  have unseen : operation = .cycle → ∀ address, first.Reads address →
      ¬ (hidden address ∧ ¬ left.OverwritesWithin operations count address) := by
    intro cycles address reads differs
    exact unread count within (cycles ▸ found) address reads differs.1
  obtain ⟨replied, next⟩ := agree.apply unseen
  refine ⟨replied, next.rest, fun address same => next.cell address ?_⟩
  rintro ⟨⟨differs, before⟩, now⟩
  refine same ⟨differs, fun overwritesWithin => ?_⟩
  rcases (happensWithin_succ_iff found).mp overwritesWithin with earlier | overwrites
  · exact before earlier
  · exact now overwrites

/-- A byte that differs until the digits of a register are stored over it: `LD I, 0x300`,
`LD B, V0`. -/
theorem run_of_unread_until_stored :
    let left := afterCycles [0xA3, 0x00, 0xF0, 0x33] 0
    let right := { left with memory := ⟨Memory.store left.memory.cells 0x300 [7]⟩ }
    let operations := [.cycle, .cycle]
    right.memory.cell 0x300 ≠ left.memory.cell 0x300 ∧
      AgreeOff (· = 0x300) left right ∧ left.LeavesUnread operations (· = 0x300) ∧
      (right.run operations).2 = (left.run operations).2 ∧
      (right.run operations).1.memory.cell 0x300 = (left.run operations).1.memory.cell 0x300 := by
  have facts :
      let left := afterCycles [0xA3, 0x00, 0xF0, 0x33] 0
      left.memory.cell 0x300 = 0 ∧ ¬ left.Reads 0x300 ∧
        ¬ (left.run [.cycle]).1.Reads 0x300 ∧ (left.run [.cycle]).1.Overwrites .cycle 0x300 := by
    decide +kernel
  generalize afterCycles [0xA3, 0x00, 0xF0, 0x33] 0 = loaded at facts ⊢
  intro left right operations
  obtain ⟨empty, first, second, stored⟩ := facts
  have cells : right.memory.cell = Image.put left.memory.cell 0x300 [7] :=
    left.memory.cell_put (by decide)
  have differs : right.memory.cell 0x300 ≠ left.memory.cell 0x300 := by
    rw [cells, empty]
    exact show (7 : UInt8) ≠ 0 by decide
  have agree : AgreeOff (· = 0x300) left right := by
    refine ⟨rfl, fun address other => ?_⟩
    rw [cells]
    refine if_neg fun within => other ?_
    simp only [List.length_cons, List.length_nil] at within
    omega
  have unread : left.LeavesUnread operations (· = 0x300) := by
    rintro count within - address reads rfl
    have short : count < 2 := within
    obtain rfl | rfl : count = 0 ∨ count = 1 := by omega
    · exact first reads
    · exact second reads
  obtain ⟨replies, states⟩ := run_of_unread agree unread
  refine ⟨differs, agree, unread, replies, (states 2 (Nat.le_refl 2)).cell 0x300 ?_⟩
  rintro ⟨-, unwritten⟩
  exact unwritten ⟨1, by decide, .cycle, rfl, stored⟩

end Machine

end Chip8
