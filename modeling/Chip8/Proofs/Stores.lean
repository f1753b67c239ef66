import Chip8.Proofs.Glyphs
import Chip8.Proofs.LastWrites

/-!
What programs have stored in the reserved memory, and a reset after that.

No program is loaded below `Memory.programStart`, but nothing keeps a running one from storing
there. A reset leaves the memory as it is and so does not bring back the glyphs.

* `stored?`, `lastStored?` — the byte that an instruction stores at an address, and the one that the
  instructions of a run stored there last.
* `cell_apply_of_reserved`, `cell_run_of_reserved` — a reserved byte is the one that was stored
  there last, or has been there from the start.
* `glyphs_of_reset` — the glyphs that a reset leaves, and when they are all in order.
* `glyphs_of_reset_after_store` — a program that stores over a glyph before a reset.
-/

namespace Chip8

namespace Machine

open Memory (InRange Image)

variable {machine : Machine} {operation : Operation} {address : Nat}

/-- The byte that the instruction of a cycle stores at an address, if it is executed: that of the
block which it stores where the index register points. -/
def stored? (machine : Machine) (address : Nat) : Operation → Option UInt8
  | .cycle =>
      if machine.paused = false ∧ machine.cycle.2.failure = none ∧ machine.cpu.i ≤ address then
        machine.nextInstruction?.bind fun instruction =>
          (machine.storedBlock instruction)[address - machine.cpu.i.toNat]?
      else none
  | _ => none

/-- The byte that the instructions of a run stored last at an address. -/
def lastStored? (machine : Machine) (operations : List Operation) (address : Nat) : Option UInt8 :=
  ((machine.history operations).filterMap fun entry => entry.1.stored? address entry.2).getLast?

theorem lastStored?_cons (machine : Machine) (operation : Operation) (rest : List Operation)
    (address : Nat) :
    machine.lastStored? (operation :: rest) address =
      ((machine.apply operation).1.lastStored? rest address).or
        (machine.stored? address operation) :=
  lastWrite?_cons (machine, operation) _

/-- A block that lies over an image, where the image shows through. -/
theorem put_eq_getD (image : Image) (location : Int) (block : List UInt8) (address : Nat) :
    Image.put image location.toNat block address =
      (if location ≤ address then block[address - location.toNat]? else none).getD
        (image address) := by
  by_cases behind : location ≤ address
  · rw [if_pos behind]
    by_cases covered : address - location.toNat < block.length
    · have within : location.toNat ≤ address ∧ address < location.toNat + block.length := by omega
      rw [List.getElem?_eq_getElem covered, Image.put, if_pos within,
        List.getElem?_eq_getElem covered]
      rfl
    · rw [List.getElem?_eq_none (by omega), Image.put, if_neg (by omega)]
      rfl
  · rw [if_neg behind, Image.put, if_neg (by omega)]
    rfl

/-- Below the programs, an operation leaves the byte that it stores, or else the one that was
there. -/
theorem cell_apply_of_reserved (reserved : address < Memory.programStart) :
    (machine.apply operation).1.memory.cell address =
      (machine.stored? address operation).getD (machine.memory.cell address) := by
  cases operation with
  | cycle =>
      by_cases executed : machine.paused = false ∧ machine.cycle.2.failure = none
      · obtain ⟨running, succeeded⟩ := executed
        obtain ⟨instruction, found, executed⟩ := execute_of_cycle running succeeded
        simp only [apply, stored?, running, succeeded, found, true_and, Option.bind_some]
        rw [cell_of_execute executed]
        exact put_eq_getD machine.memory.cell machine.cpu.i _ address
      · have idle : machine.stored? address .cycle = none :=
          if_neg fun executes => executed ⟨executes.1, executes.2.1⟩
        rw [idle]
        exact cell_apply fun overwrites => executed ⟨overwrites.1, overwrites.2.1⟩
  | loadProgram program =>
      refine cell_apply ?_
      rintro ⟨-, above, -⟩
      exact absurd reserved (Nat.not_lt.mpr (Int.ofNat_le.mp above))
  | _ => exact cell_apply id

theorem cell_run_of_reserved (operations : List Operation)
    (reserved : address < Memory.programStart) :
    (machine.run operations).1.memory.cell address =
      (machine.lastStored? operations address).getD (machine.memory.cell address) := by
  induction operations generalizing machine with
  | nil => rfl
  | cons operation rest ih =>
      rw [lastStored?_cons, Option.getD_or, ← cell_apply_of_reserved reserved]
      exact ih

/-! ### Glyphs -/

/-- The bytes where the glyphs were stored at first. -/
theorem readBlock_of_cells {memory : Memory} {bytes : Nat → UInt8}
    (same : ∀ address < 80, memory.cell address = bytes address) :
    memory.readBlock 0 80 = .ok ((List.range 80).map bytes) := by
  have inside : InRange 0 80 := by decide
  rw [memory.readBlock_eq, if_pos inside, memory.extract_of_inRange inside]
  refine congrArg Except.ok (List.map_congr_left fun address member => ?_)
  have low := List.mem_range.mp member
  exact (congrArg memory.cell (Nat.zero_add address)).trans (same address low)

/-- Glyphs over which something is stored stay the same if that is the same. -/
theorem map_getD_eq_glyphs_iff {stored : Nat → Option UInt8} :
    (List.range 80).map (fun address => (stored address).getD (Font.glyphs[address]?.getD 0)) =
        Font.glyphs ↔
      ∀ address < 80, ∀ byte, stored address = some byte →
        byte = Font.glyphs[address]?.getD 0 := by
  have whole : Font.glyphs = (List.range 80).map fun address => Font.glyphs[address]?.getD 0 := by
    decide
  nth_rewrite 2 [whole]
  rw [List.map_inj_left]
  refine forall_congr' fun address => ?_
  rw [List.mem_range]
  refine imp_congr_right fun _ => ?_
  cases stored address with
  | none => exact ⟨fun _ byte stays => absurd stays nofun, fun _ => rfl⟩
  | some byte => exact ⟨fun same _ found => Option.some.inj found ▸ same, fun same => same _ rfl⟩

/-- A reset leaves the memory as it is. So of the 80 bytes of the glyphs, each is then the one that
a program stored over it last, and the glyphs are as they were at first just when all these bytes
are those of the glyphs again. -/
theorem glyphs_of_reset (random : RandomSource) (tracing : Bool) (operations : List Operation) :
    let machine := fresh random tracing
    let before := (machine.run operations).1
    let after := (before.apply .reset).1
    after.memory = before.memory ∧
      after.memory.readBlock 0 80 = .ok ((List.range 80).map fun address =>
        (machine.lastStored? operations address).getD (Font.glyphs[address]?.getD 0)) ∧
      (after.memory.readBlock 0 80 = .ok Font.glyphs ↔
        ∀ address < 80, ∀ byte, machine.lastStored? operations address = some byte →
          byte = Font.glyphs[address]?.getD 0) := by
  intro machine before after
  have kept : after.memory = before.memory := rfl
  have block : after.memory.readBlock 0 80 = .ok ((List.range 80).map fun address =>
      (machine.lastStored? operations address).getD (Font.glyphs[address]?.getD 0)) := by
    apply readBlock_of_cells
    intro address low
    have reserved : address < Memory.programStart := Nat.lt_trans low (by decide)
    have start : machine.memory.cell address = Font.glyphs[address]?.getD 0 :=
      glyphsIntact_initial address low
    rw [kept, cell_run_of_reserved operations reserved, start]
  refine ⟨kept, block, ?_⟩
  rw [block, Except.ok.injEq]
  exact map_getD_eq_glyphs_iff

/-- The glyph of the digit 0 loses its first row to a register, and a reset does not bring it back:
`LD [I], V0`. -/
theorem glyphs_of_reset_after_store :
    let machine := ((fresh (.cycling []) false).run [.loadProgram [0xF0, 0x55], .cycle, .reset]).1
    machine.memory.cell 0 = 0 ∧ machine.memory.readBlock 0 80 ≠ .ok Font.glyphs := by
  decide +kernel

end Machine

end Chip8
