import Chip8.Proofs.Coupling
import Mathlib.Data.Int.Bitwise

/-!
Random bytes.

* `rolled?`, `rolls` — the register and the mask of the random byte that an operation draws, and
  those of a run.
* `random_apply_eq`, `random_of_rolls` — an operation, and a run, makes one request of the source
  for every random byte that it draws, and no other.
* `toNat_lowByte_and` — such a byte is the answer under the mask, as a word of two's complement.
* `SameButSource` — two machines that differ in nothing but their random sources.
* `SameButSource.apply`, `SameButSource.run` — so long as the sources answer alike, no operation and
  no run tells the two apart.
* `random_of_run` — randomness enters a run through the instructions for random bytes alone.
-/

namespace Chip8

/-- The answer that a source will give after so many others. -/
def RandomSource.next (source : RandomSource) (count : Nat) : Int :=
  source.answer (source.requests.length + count)

/-- The source after so many requests for a byte. -/
def RandomSource.advance (source : RandomSource) (count : Nat) : RandomSource :=
  { source with requests := source.requests ++ List.replicate count (0, 0xFF) }

@[simp] theorem RandomSource.advance_zero (source : RandomSource) : source.advance 0 = source := by
  simp [advance]

@[simp] theorem RandomSource.advance_advance (source : RandomSource) (first second : Nat) :
    (source.advance first).advance second = source.advance (first + second) := by
  simp [advance, List.replicate_append_replicate]

@[simp] theorem RandomSource.next_advance (source : RandomSource) (first second : Nat) :
    (source.advance first).next second = source.next (first + second) := by
  simp [next, advance, Nat.add_assoc]

theorem Cpu.toNat_lowByte (value : Int) : (lowByte value).toNat = (value % 0x100).toNat := by
  simp only [lowByte, UInt8.toNat_ofNat']
  omega

/-- The low byte of an answer under a mask is the answer under the mask, negative answers taken in
two's complement. -/
theorem toNat_lowByte_and (answer : Int) (mask : UInt8) :
    ((Cpu.lowByte answer &&& mask).toNat : Int) = Int.land answer mask.toNat := by
  have short (place : Nat) (beyond : 8 ≤ place) : mask.toNat.testBit place = false :=
    Nat.testBit_lt_two_pow
      (Nat.lt_of_lt_of_le mask.toNat_lt (Nat.pow_le_pow_right (by decide) beyond))
  cases answer with
  | ofNat value =>
      apply congrArg Int.ofNat
      apply Nat.eq_of_testBit_eq
      intro place
      have low : (Int.ofNat value % 0x100).toNat = value % 2 ^ 8 := by
        simp only [Int.ofNat_eq_natCast]
        omega
      rw [UInt8.toNat_and, Cpu.toNat_lowByte, low, Nat.testBit_and, Nat.testBit_and,
        Nat.testBit_mod_two_pow]
      by_cases inside : place < 8
      · simp [inside]
      · simp [short place (by omega)]
  | negSucc value =>
      apply congrArg Int.ofNat
      apply Nat.eq_of_testBit_eq
      intro place
      -- The low byte of `-value - 1` has the bits that the low byte of `value` has not.
      have low : (Int.negSucc value % 0x100).toNat = 2 ^ 8 - (value % 2 ^ 8 + 1) := by
        omega
      rw [UInt8.toNat_and, Cpu.toNat_lowByte, low, Nat.testBit_and, Nat.testBit_ldiff,
        Nat.testBit_two_pow_sub_succ (Nat.mod_lt _ (by decide)), Nat.testBit_mod_two_pow]
      by_cases inside : place < 8
      · simp [inside, Bool.and_comm]
      · simp [short place (by omega)]

/-- The register and the mask of the random byte that an instruction is for. -/
def Instruction.roll? : Instruction → Option (Nibble × UInt8)
  | .random x mask => some (x, mask)
  | _ => none

theorem Instruction.roll?_eq_some_iff {instruction : Instruction} {x : Nibble} {mask : UInt8} :
    instruction.roll? = some (x, mask) ↔ instruction = .random x mask := by
  cases instruction <;> simp [roll?]

theorem Instruction.sober_of_roll? {instruction : Instruction} (sober : instruction.roll? = none) :
    instruction.footprint.random = false := by
  cases instruction with
  | random _ _ => cases sober
  | _ => rfl

namespace Machine

variable {machine left right : Machine} {operation : Operation} {x : Nibble} {mask : UInt8}

/-! ### Requests -/

/-- The register and the mask of the random byte that an operation draws. -/
def rolled? (machine : Machine) : Operation → Option (Nibble × UInt8)
  | .cycle => if machine.paused then none else machine.nextInstruction?.bind Instruction.roll?
  | _ => none

/-- The random bytes that are drawn in a run, oldest first. -/
def rolls (machine : Machine) (operations : List Operation) : List (Nibble × UInt8) :=
  (machine.history operations).filterMap fun entry => entry.1.rolled? entry.2

theorem rolled?_eq_some_iff :
    machine.rolled? operation = some (x, mask) ↔
      operation = .cycle ∧ machine.paused = false ∧
        machine.nextInstruction? = some (.random x mask) := by
  cases operation with
  | cycle =>
      cases running : machine.paused with
      | true => simp [rolled?, running]
      | false =>
          simp only [rolled?, running, Bool.false_eq_true, if_false, true_and,
            Option.bind_eq_some_iff, Instruction.roll?_eq_some_iff, exists_eq_right]
  | _ => simp [rolled?]

theorem rolls_cons (machine : Machine) (operation : Operation) (rest : List Operation) :
    machine.rolls (operation :: rest) =
      (machine.rolled? operation).toList ++ (machine.apply operation).1.rolls rest := by
  simp only [rolls, history, List.filterMap_cons]
  cases machine.rolled? operation <;> rfl

theorem execute_random (machine : Machine) (x : Nibble) (mask : UInt8) :
    machine.execute (.random x mask) =
      ({ machine with
        cpu := machine.cpu.setV x (Cpu.lowByte (machine.random.next 0) &&& mask)
        random := machine.random.advance 1 }, none) :=
  rfl

/-- An operation makes a request for the random byte that it draws, if it draws one. -/
theorem random_apply_eq (machine : Machine) (operation : Operation) :
    (machine.apply operation).1.random =
      machine.random.advance (machine.rolled? operation).toList.length := by
  cases rolled : machine.rolled? operation with
  | some roll =>
      obtain ⟨x, mask⟩ := roll
      obtain ⟨rfl, running, found⟩ := rolled?_eq_some_iff.mp rolled
      have cycled := cycle_of_execute running found (machine.fetched.execute_random x mask)
      simp only [apply, cycled]
      rfl
  | none =>
      rw [Option.toList_none, List.length_nil, RandomSource.advance_zero]
      by_cases cycles : operation = .cycle
      · rw [cycles] at rolled ⊢
        simp only [apply]
        have outcome := machine.outcome_cycle
        generalize machine.cycle = ended at outcome ⊢
        cases outcome with
        | paused _ | unfetched _ _ | undecoded _ _ _ | refused _ _ _ _ => rfl
        | executed running inside known succeeded =>
            have found := nextInstruction?_eq_some_iff.mpr ⟨inside, known⟩
            simp only [rolled?, running, found, Bool.false_eq_true, if_false,
              Option.bind_some] at rolled
            exact (confined_execute succeeded).random (Instruction.sober_of_roll? rolled)
      · exact (machine.attached_of_apply cycles).1

/-- A run makes one request for every random byte that it draws. -/
theorem random_of_rolls (operations : List Operation) (machine : Machine) :
    (machine.run operations).1.random =
      machine.random.advance (machine.rolls operations).length := by
  induction operations generalizing machine with
  | nil => simp [run, rolls, history]
  | cons operation rest ih =>
      rw [rolls_cons, List.length_append]
      simp only [run, ih, random_apply_eq, RandomSource.advance_advance]

/-- A cycle for a random byte succeeds, and puts the next answer under the mask into its
register. -/
theorem cycle_of_rolled? (rolled : machine.rolled? .cycle = some (x, mask)) :
    machine.cycle.2.failure = none ∧
      machine.cycle.1.cpu.v.get x = Cpu.lowByte (machine.random.next 0) &&& mask := by
  obtain ⟨-, running, found⟩ := rolled?_eq_some_iff.mp rolled
  have cycled := cycle_of_execute running found (machine.fetched.execute_random x mask)
  rw [cycled]
  refine ⟨rfl, ?_⟩
  refine (Cpu.get_setV _ x x _).trans ?_
  rw [if_pos rfl]
  rfl

/-! ### Machines with sources of their own -/

/-- The second machine is the first at another random source. -/
def SameButSource (left right : Machine) : Prop := right = { left with random := right.random }

namespace SameButSource

theorem alike (same : SameButSource left right) : Alike left right := by
  rw [same]
  exact ⟨rfl, rfl, rfl, fun _ _ => rfl⟩

theorem rolled?_eq (same : SameButSource left right) (operation : Operation) :
    right.rolled? operation = left.rolled? operation := by
  rw [same]
  cases operation <;> rfl

/-- An instruction goes the same way at both sources, if it draws no random byte or both answer
alike. -/
theorem execute (same : SameButSource left right) (instruction : Instruction)
    (answered : instruction.roll? ≠ none → right.random.next 0 = left.random.next 0) :
    Coupled SameButSource (left.execute instruction) (right.execute instruction) := by
  cases rolls : instruction.roll? with
  | some roll =>
      obtain ⟨x, mask⟩ := roll
      obtain rfl := Instruction.roll?_eq_some_iff.mp rolls
      have next := answered (by simp [rolls])
      rw [execute_random, execute_random, next]
      refine .executed ?_
      rw [same]
      rfl
  | none =>
      have sober := Instruction.sober_of_roll? rolls
      have attached := left.execute_attach right.random left.tracing sober
      rw [same]
      refine attached ▸ coupled_map _ fun next succeeded => ?_
      rw [← (confined_execute succeeded).tracing]
      rfl

theorem cycle (same : SameButSource left right)
    (answered : left.rolled? .cycle ≠ none → right.random.next 0 = left.random.next 0) :
    right.cycle.2 = left.cycle.2 ∧ SameButSource left.cycle.1 right.cycle.1 := by
  have fetched : SameButSource left.fetched right.fetched := by
    rw [same]
    rfl
  refine coupled_cycle same.alike same ?_ (fun _ _ => fetched) ?_
  · rw [same]
    rfl
  · intro instruction running found
    apply fetched.execute
    intro rolls
    apply answered
    simpa [rolled?, running, found] using rolls

theorem apply (same : SameButSource left right)
    (answered : left.rolled? operation ≠ none → right.random.next 0 = left.random.next 0) :
    (right.apply operation).2 = (left.apply operation).2 ∧
      SameButSource (left.apply operation).1 (right.apply operation).1 := by
  by_cases cycles : operation = .cycle
  · rw [cycles] at answered ⊢
    exact same.cycle answered
  · have applied : right.apply operation = _ :=
      (congrArg (fun machine => machine.apply operation) same).trans
        (left.apply_attach right.random left.tracing cycles)
    rw [applied]
    refine ⟨rfl, ?_⟩
    rw [← (left.attached_of_apply cycles).2]
    rfl

/-- A run goes the same way at both sources, if they answer alike as often as it asks. -/
theorem run {operations : List Operation} (same : SameButSource left right)
    (answered : ∀ count < (left.rolls operations).length,
      right.random.next count = left.random.next count) :
    (right.run operations).2 = (left.run operations).2 ∧
      SameButSource (left.run operations).1 (right.run operations).1 := by
  induction operations generalizing left right with
  | nil => exact ⟨rfl, same⟩
  | cons operation rest ih =>
      rw [rolls_cons, List.length_append] at answered
      have first : left.rolled? operation ≠ none → right.random.next 0 = left.random.next 0 := by
        intro rolls
        obtain ⟨roll, rolled⟩ := Option.ne_none_iff_exists'.mp rolls
        apply answered
        simp only [rolled, Option.toList_some, List.length_singleton]
        omega
      obtain ⟨reply, next⟩ := same.apply first
      have later : ∀ count < ((left.apply operation).1.rolls rest).length,
          (right.apply operation).1.random.next count =
            (left.apply operation).1.random.next count := by
        intro count within
        simp only [random_apply_eq, RandomSource.next_advance, same.rolled?_eq]
        exact answered _ (by omega)
      obtain ⟨replies, last⟩ := ih next later
      exact ⟨List.cons_eq_cons.mpr ⟨reply, replies⟩, last⟩

end SameButSource

/-- Randomness enters a run through the instructions for random bytes alone.

The source is asked once for every such instruction that is executed, for a byte, and an instruction
that so many others have gone before takes the answer of that number under its mask. Another machine
that differs in its source alone answers every operation alike and goes through the same states, so
long as no more random bytes have been drawn than the two sources have answers in common. A reset
leaves the source where it stands. -/
theorem random_of_run (machine : Machine) (operations : List Operation) :
    (machine.run operations).1.random.requests =
        machine.random.requests ++ (machine.rolls operations).map (fun _ => (0, 0xFF)) ∧
      (∀ (count : Nat) (operation : Operation) (x : Nibble) (mask : UInt8),
        operations[count]? = some operation →
          let before := (machine.run (operations.take count)).1
          let after := (before.apply operation).1
          before.rolled? operation = some (x, mask) →
            (before.apply operation).2.failure = none ∧
              ((after.cpu.v.get x).toNat : Int) =
                Int.land (machine.random.next (machine.rolls (operations.take count)).length)
                  mask.toNat ∧
              (after.cpu.v.get x).toNat ≤ mask.toNat) ∧
      (∀ (other : Machine) (known : Nat), other = { machine with random := other.random } →
        (∀ count < known, other.random.next count = machine.random.next count) →
          ∀ count ≤ operations.length, (machine.rolls (operations.take count)).length ≤ known →
            let left := machine.run (operations.take count)
            let right := other.run (operations.take count)
            right.2 = left.2 ∧ right.1 = { left.1 with random := right.1.random }) ∧
      ∀ before : Machine, (before.apply .reset).1.random = before.random := by
  refine ⟨?_, ?_, ?_, ?_⟩
  · rw [random_of_rolls, List.map_const']
    rfl
  · intro count operation x mask found before after rolled
    obtain ⟨rfl, -, -⟩ := rolled?_eq_some_iff.mp rolled
    obtain ⟨succeeded, written⟩ := cycle_of_rolled? rolled
    have source : before.random = machine.random.advance _ := random_of_rolls _ machine
    rw [source, RandomSource.next_advance] at written
    have value : after.cpu.v.get x = _ := written
    refine ⟨succeeded, ?_, ?_⟩
    · rw [value, toNat_lowByte_and]
      rfl
    · rw [value, UInt8.toNat_and]
      exact Nat.and_le_right
  · intro other known same answered count _ few
    refine SameButSource.run same ?_
    intro earlier within
    exact answered earlier (Nat.lt_of_lt_of_le within few)
  · intro before
    rfl

/-- Two random bytes of `RND V1, 0x5a` with a reset in between, at a source that answers -1 and
600. -/
example :
    let start := (fresh (.cycling [-1, 600]) false).run [.loadProgram [0xC1, 0x5A]]
    let last := start.1.run [.cycle, .reset, .cycle]
    start.1.rolls [.cycle, .reset, .cycle] = [(1, 0x5A), (1, 0x5A)] ∧
      last.1.random.requests = [(0, 0xFF), (0, 0xFF)] ∧
      last.1.cpu.v.get 1 = 0x58 := by
  decide +kernel

end Machine

end Chip8
