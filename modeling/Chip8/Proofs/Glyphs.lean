import Chip8.Proofs.Unread

/-!
The glyphs of the digits.

The glyphs lie in front of the programs, where a program can store over them. One that never does
finds them there for ever, and a digit that it draws looks as it should.

* `Memory.GlyphsIntact`, `SparesGlyphs` — the glyphs are where they were stored first; a run stores
  nothing over them.
* `glyphsIntact_apply`, `glyphsIntact_run` — an operation and a run that store nothing over the
  glyphs keep them.
* `getPixel_drawn`, `collided_drawn` — the picture and the flag that any sprite leaves.
* `Font.Shows`, `DrawsGlyph` — the pixels under a glyph, and what drawing it does to a machine.
* `picture_of_glyph` — pointing at the glyph of a digit and drawing it shows that digit.
-/

namespace Chip8

/-- The memory holds the glyphs from address 0 on. -/
def Memory.GlyphsIntact (memory : Memory) : Prop :=
  ∀ address < 80, memory.cell address = Font.glyphs[address]?.getD 0

/-- A row of a glyph. -/
def Font.row (digit line : Nat) : UInt8 := Font.glyphs[Font.glyphLocation digit + line]?.getD 0

/-- A set bit of a digit's glyph lands on a pixel of the screen, with the top left corner of the
glyph at `left`, `top`, and the screen closed up at its edges. -/
def Font.Shows (digit left top px py : Nat) : Prop :=
  ∃ line < Font.height, ∃ column < 8, (Font.row digit line).toNat.testBit (7 - column) = true ∧
    (left + column) % 64 = px ∧ (top + line) % 32 = py

instance Font.Shows.decidable (digit left top px py : Nat) :
    Decidable (Font.Shows digit left top px py) :=
  inferInstanceAs (Decidable (∃ line < _, ∃ column < _, _))

/-- The instruction stores something where the index register points. -/
def Instruction.stores : Instruction → Bool
  | .storeDecimal _ | .storeRegisters _ => true
  | _ => false

/-- The operation counts the timers down or sets keys. -/
def Machine.Operation.isBackground : Machine.Operation → Bool
  | .tick | .setKey _ _ | .setKeys _ => true
  | .loadProgram _ | .cycle | .reset | .pause | .resume => false

namespace Machine

open Memory (InRange Within Image)

variable {machine : Machine} {operation : Operation} {operations : List Operation}

/-! ### Memory -/

/-- If a cycle executes an instruction that stores something, then behind the glyphs. -/
def StoresBehindGlyphs (machine : Machine) : Prop :=
  ∀ instruction, machine.nextInstruction? = some instruction → instruction.stores = true →
    machine.paused = false → machine.cycle.2.failure = none → 80 ≤ machine.cpu.i

instance StoresBehindGlyphs.decidable (machine : Machine) :
    Decidable machine.StoresBehindGlyphs :=
  inferInstanceAs (Decidable (∀ instruction ∈ machine.nextInstruction?, _ → _ → _ → _))

/-- Every cycle of a run that stores something does so behind the glyphs. -/
def SparesGlyphs (machine : Machine) (operations : List Operation) : Prop :=
  ∀ entry ∈ machine.history operations, entry.2 = .cycle → entry.1.StoresBehindGlyphs

instance SparesGlyphs.decidable (machine : Machine) (operations : List Operation) :
    Decidable (machine.SparesGlyphs operations) := by
  unfold SparesGlyphs; infer_instance

theorem glyphsIntact_initial : Memory.initial.GlyphsIntact := by
  intro address _
  rw [Memory.cell_initial]
  rfl

/-- An operation that stores nothing over the glyphs keeps them. -/
theorem glyphsIntact_apply (intact : machine.memory.GlyphsIntact)
    (behind : operation = .cycle → machine.StoresBehindGlyphs) :
    (machine.apply operation).1.memory.GlyphsIntact := by
  intro address low
  refine (cell_apply ?_).trans (intact address low)
  intro overwritten
  cases operation with
  | cycle =>
      obtain ⟨running, succeeded, instruction, found, within⟩ := overwritten
      simp only [Within] at within
      cases instruction with
      | storeDecimal _ | storeRegisters _ =>
          have beyond := behind rfl _ found rfl running succeeded
          omega
      | _ =>
          simp only [Instruction.footprint] at within
          omega
  | loadProgram program =>
      obtain ⟨-, within⟩ := overwritten
      simp only [Within, Memory.programStart] at within
      omega
  | _ => exact overwritten

theorem glyphsIntact_run (intact : machine.memory.GlyphsIntact)
    (spares : machine.SparesGlyphs operations) (count : Nat) :
    (machine.run (operations.take count)).1.memory.GlyphsIntact := by
  induction operations generalizing machine count with
  | nil =>
      rw [List.take_nil]
      exact intact
  | cons operation rest ih =>
      obtain ⟨behind, later⟩ := List.forall_mem_cons.mp spares
      cases count with
      | zero => exact intact
      | succ count => exact ih (glyphsIntact_apply intact behind) later count

/-- The bytes of a memory with its glyphs, as far as the glyphs go. -/
theorem slice_of_intact {memory : Memory} (intact : memory.GlyphsIntact) {address size : Nat}
    (fits : address + size ≤ 80) :
    Image.slice memory.cell address size = Image.slice Image.fresh address size := by
  refine List.map_congr_left fun offset inside => intact (address + offset) ?_
  have := List.mem_range.mp inside
  omega

/-- All the glyphs are read from a memory that holds them. -/
theorem readBlock_of_intact {memory : Memory} (intact : memory.GlyphsIntact) :
    memory.readBlock 0 80 = .ok Font.glyphs := by
  have inside : InRange 0 80 := by decide
  have whole : Image.slice Image.fresh 0 80 = Font.glyphs := by decide
  rw [memory.readBlock_eq, if_pos inside, memory.extract_of_inRange inside]
  exact congrArg Except.ok ((slice_of_intact intact (Nat.le_refl 80)).trans whole)

/-! ### Between the two instructions -/

/-- Timers and keys are all that an operation in the background changes. -/
theorem apply_of_background (machine : Machine) (background : operation.isBackground = true) :
    ∃ delay sound keypad, (machine.apply operation).1 =
      { machine with cpu := { machine.cpu with delay, sound }, keypad } := by
  cases operation with
  | tick =>
      simp only [apply, tick]
      split
      · exact ⟨_, _, _, rfl⟩
      · exact ⟨_, _, _, rfl⟩
  | setKey key down =>
      obtain ⟨keypad, framed⟩ := machine.frame_setKey key down
      exact ⟨_, _, keypad, framed⟩
  | setKeys states =>
      obtain ⟨keypad, framed⟩ := machine.frame_setKeys states
      exact ⟨_, _, keypad, framed⟩
  | loadProgram _ | cycle | reset | pause | resume => cases background

theorem run_of_background (machine : Machine)
    (background : ∀ operation ∈ operations, operation.isBackground = true) :
    ∃ delay sound keypad, (machine.run operations).1 =
      { machine with cpu := { machine.cpu with delay, sound }, keypad } := by
  induction operations generalizing machine with
  | nil => exact ⟨_, _, _, rfl⟩
  | cons operation rest ih =>
      obtain ⟨first, others⟩ := List.forall_mem_cons.mp background
      obtain ⟨_, _, _, next⟩ := machine.apply_of_background first
      obtain ⟨delay, sound, keypad, last⟩ := ih (machine.apply operation).1 others
      rw [next] at last
      refine ⟨delay, sound, keypad, ?_⟩
      simp only [run, next]
      exact last

/-- While the machine waits to draw the glyph that it has pointed the index register at, nothing
else becomes of it. -/
theorem run_of_pointGlyph {x : Nibble} (running : machine.paused = false)
    (found : machine.nextInstruction? = some (.pointGlyph x))
    (background : ∀ operation ∈ operations, operation.isBackground = true) :
    let later := (machine.cycle.1.run operations).1
    later.cpu.i = Font.glyphLocation ((machine.cpu.v.get x).toNat % 16) ∧
      later.cpu.v = machine.cpu.v ∧ later.memory = machine.memory ∧
      later.screen = machine.screen ∧ later.paused = false := by
  obtain ⟨delay, sound, keypad, same⟩ := run_of_background machine.cycle.1 background
  intro later
  have pointed := cycle_of_execute running found rfl
  have same : later = _ := same
  rw [same, pointed]
  exact ⟨rfl, rfl, rfl, rfl, running⟩

/-! ### Drawing -/

section Drawing

variable {x y rows : Nibble} (inside : InRange machine.cpu.i rows.val)

/-- The bits of a machine's sprite that land on a pixel. -/
def Hits (machine : Machine) (x y rows : Nibble) (px py : Int) : Prop :=
  Screen.Covered screenWidth screenHeight (machine.cpu.v.get x).toNat (machine.cpu.v.get y).toNat
    (machine.blockAtIndex rows.val) px py

instance Hits.decidable (machine : Machine) (x y rows : Nibble) (px py : Int) :
    Decidable (machine.Hits x y rows px py) :=
  inferInstanceAs (Decidable (Screen.Covered _ _ _ _ _ _ _))

include inside

theorem nodup_drawn : (Screen.spriteCells screenWidth_pos screenHeight_pos
    (machine.cpu.v.get x).toNat (machine.cpu.v.get y).toNat
      (machine.blockAtIndex rows.val)).Nodup := by
  apply Screen.nodup_spriteCells
  · decide
  · rw [length_blockAtIndex inside]
    have := rows.isLt
    show (rows.val : Int) ≤ 32
    omega

/-- Drawing switches over the pixels under the set bits of the sprite. -/
theorem getPixel_drawn (px py : Int) :
    ∃ lit, machine.screen.getPixel px py = .ok lit ∧
      (⟨(machine.drawnCells x y rows).1, .changed⟩ :
        Screen screenWidth screenHeight).getPixel px py =
          .ok (lit ^^ decide (machine.Hits x y rows px py)) := by
  have member : Screen.torusCell screenWidth_pos screenHeight_pos px py ∈
      Screen.spriteCells screenWidth_pos screenHeight_pos (machine.cpu.v.get x).toNat
        (machine.cpu.v.get y).toNat (machine.blockAtIndex rows.val) ↔
      machine.Hits x y rows px py := Screen.mem_spriteCells_iff _ _
  refine ⟨_, Screen.getPixel_eq screenWidth_pos screenHeight_pos _ _ _, ?_⟩
  rw [Screen.getPixel_eq screenWidth_pos screenHeight_pos, drawnCells,
    Screen.get_foldl_toggle_of_nodup _ _ (nodup_drawn inside), List.contains_eq_mem,
    decide_eq_decide.mpr member]

/-- The flag tells that one of these pixels was lit. -/
theorem collided_drawn :
    (machine.drawnCells x y rows).2 = true ↔
      ∃ px py : Nat, px < 64 ∧ py < 32 ∧ machine.screen.getPixel px py = .ok true ∧
        machine.Hits x y rows px py := by
  rw [drawnCells, Screen.collided_foldl_toggle_of_nodup _ _ (nodup_drawn inside)]
  constructor
  · rintro (off | ⟨cell, member, lit⟩)
    · cases off
    obtain ⟨px, py, narrow, short, rfl⟩ :=
      Screen.exists_torusCell screenWidth_pos screenHeight_pos cell
    simp only [screenWidth, screenHeight] at narrow short
    refine ⟨px, py, by omega, by omega, ?_, (Screen.mem_spriteCells_iff _ _).mp member⟩
    rw [Screen.getPixel_eq screenWidth_pos screenHeight_pos]
    exact congrArg Except.ok lit
  · rintro ⟨px, py, -, -, lit, hit⟩
    rw [Screen.getPixel_eq screenWidth_pos screenHeight_pos] at lit
    exact .inr ⟨_, (Screen.mem_spriteCells_iff screenWidth_pos screenHeight_pos).mpr hit,
      Except.ok.inj lit⟩

end Drawing

/-! ### Digits -/

theorem inRange_glyph {digit : Nat} (small : digit < 16) :
    InRange (Font.glyphLocation digit) 5 := by
  simp only [InRange, Memory.size, Font.glyphLocation, Font.location, Font.height]
  omega

/-- Behind an index register that points at a digit's glyph, the rows of a sprite are the rows of
that glyph. -/
theorem hits_iff_shows (machine : Machine) (x y : Nibble) {digit : Nat} (small : digit < 16)
    (intact : machine.memory.GlyphsIntact) (points : machine.cpu.i = Font.glyphLocation digit)
    {px py : Nat} (narrow : px < 64) (short : py < 32) :
    machine.Hits x y 5 px py ↔
      Font.Shows digit ((machine.cpu.v.get x).toNat % 64) ((machine.cpu.v.get y).toNat % 32) px
        py := by
  have low : Font.glyphLocation digit + (5 : Nibble).val ≤ 80 := by
    show 0 + 5 * digit + 5 ≤ 80
    omega
  have inside : InRange machine.cpu.i (5 : Nibble).val := by
    rw [points]
    exact inRange_glyph small
  have block : machine.blockAtIndex (5 : Nibble).val =
      (List.range Font.height).map (Font.row digit) := by
    rw [blockAtIndex_eq_slice inside, points, Int.toNat_natCast, slice_of_intact intact low]
    rfl
  simp only [Hits, Screen.Covered, Font.Shows, block, List.length_map, List.length_range]
  refine exists_congr fun line => and_congr_right fun within => exists_congr fun column => ?_
  rw [List.getElem?_map, List.getElem?_range within, Int.fmod_eq_emod_of_nonneg _ (by decide),
    Int.fmod_eq_emod_of_nonneg _ (by decide), Int.fmod_eq_emod_of_nonneg _ (by decide),
    Int.fmod_eq_emod_of_nonneg _ (by decide)]
  simp only [Option.map_some, Option.getD_some]
  refine and_congr_right fun _ => and_congr_right fun _ => ?_
  simp only [screenWidth, screenHeight]
  omega

/-- From one machine to the next, the glyph of a digit has been drawn over the picture. -/
structure DrawsGlyph (digit left top : Nat) (before after : Machine) : Prop where
  pixels : ∀ px py : Nat, px < 64 → py < 32 → ∃ lit, before.screen.getPixel px py = .ok lit ∧
    after.screen.getPixel px py = .ok (lit ^^ decide (Font.Shows digit left top px py))
  flag : after.cpu.v.get 0xF = 1 ↔ ∃ px py : Nat, px < 64 ∧ py < 32 ∧
    before.screen.getPixel px py = .ok true ∧ Font.Shows digit left top px py
  binary : after.cpu.v.get 0xF = 0 ∨ after.cpu.v.get 0xF = 1

/-- A machine that points at the glyph of a digit draws that glyph. -/
theorem drawsGlyph_of_cycle {a b : Nibble} {digit : Nat} (small : digit < 16)
    (intact : machine.memory.GlyphsIntact) (points : machine.cpu.i = Font.glyphLocation digit)
    (running : machine.paused = false)
    (found : machine.nextInstruction? = some (.draw a b 5)) :
    machine.cycle.2.failure = none ∧
      DrawsGlyph digit ((machine.cpu.v.get a).toNat % 64) ((machine.cpu.v.get b).toNat % 32)
        machine machine.cycle.1 := by
  have inside : InRange machine.fetched.cpu.i (5 : Nibble).val := by
    show InRange machine.cpu.i 5
    rw [points]
    exact inRange_glyph small
  have executed := machine.fetched.execute_draw a b 5
  rw [if_pos inside] at executed
  have shows {px py : Nat} (narrow : px < 64) (short : py < 32) :=
    machine.fetched.hits_iff_shows a b small intact points narrow short
  have flag := (machine.fetched.cpu.get_setV 0xF 0xF
    (if (machine.fetched.drawnCells a b 5).2 then 1 else 0)).trans (if_pos rfl)
  rw [cycle_of_execute running found executed]
  refine ⟨rfl, ?_, ?_, ?_⟩
  · intro px py narrow short
    obtain ⟨lit, before, after⟩ := getPixel_drawn (x := a) (y := b) inside px py
    rw [decide_eq_decide.mpr (shows narrow short)] at after
    exact ⟨lit, before, after⟩
  · have collided := collided_drawn (x := a) (y := b) inside
    refine Iff.trans ?_ (collided.trans ?_)
    · rw [Cpu.setFlag, flag]
      split <;> simp [*]
    · refine exists_congr fun px => exists_congr fun py => ?_
      refine and_congr_right fun narrow => and_congr_right fun short => and_congr_right fun _ => ?_
      exact shows narrow short
  · rw [Cpu.setFlag, flag]
    split
    · exact .inr rfl
    · exact .inl rfl

/-- A run that stores nothing over the glyphs finds them in memory at all times. When it points the
index register at the glyph of a digit, and the next instruction is to draw five rows, while the
timers go on and keys are pressed, then that digit appears, at the place that two registers name,
and closed up at the edges of the screen. -/
theorem picture_of_glyph (random : RandomSource) (tracing : Bool) (operations : List Operation)
    (spares : (fresh random tracing).SparesGlyphs operations) (count : Nat) :
    let state := ((fresh random tracing).run (operations.take count)).1
    state.memory.readBlock 0 80 = .ok Font.glyphs ∧
      ∀ x a b between, state.paused = false → state.nextInstruction? = some (.pointGlyph x) →
        (∀ operation ∈ between, operation.isBackground = true) →
          let drawing := (state.cycle.1.run between).1
          drawing.nextInstruction? = some (.draw a b 5) →
            state.cycle.2.failure = none ∧ drawing.cycle.2.failure = none ∧
              drawing.screen = state.screen ∧
              DrawsGlyph ((state.cpu.v.get x).toNat % 16) ((state.cpu.v.get a).toNat % 64)
                ((state.cpu.v.get b).toNat % 32) drawing drawing.cycle.1 := by
  intro state
  have start : (fresh random tracing).memory.GlyphsIntact := glyphsIntact_initial
  have intact : state.memory.GlyphsIntact := glyphsIntact_run start spares count
  refine ⟨readBlock_of_intact intact, ?_⟩
  intro x a b between running found background drawing draws
  obtain ⟨points, registers, memory, picture, unpaused⟩ :=
    run_of_pointGlyph running found background
  have succeeded := congrArg (fun ended => ended.2.failure) (cycle_of_execute running found rfl)
  have small : (state.cpu.v.get x).toNat % 16 < 16 := Nat.mod_lt _ (by decide)
  rw [← memory] at intact
  obtain ⟨drawn, shown⟩ := drawsGlyph_of_cycle small intact points unpaused draws
  rw [registers] at shown
  exact ⟨succeeded, drawn, picture, shown⟩

/-- A digit A over a digit 0, at a corner of the screen and so over all its edges, after digits have
been stored right behind the glyphs: `LD I, 0x050`, `LD B, V0`, `LD F, V0`, `DRW V0, V0, 5`,
`LD V0, 0x1a`, `LD VF, 0x3e`, `LD V1, 0x1e`, `LD F, V0` and `DRW VF, V1, 5`. -/
theorem picture_of_glyph_over_edges :
    let operations : List Operation := .loadProgram
      [0xA0, 0x50, 0xF0, 0x33, 0xF0, 0x29, 0xD0, 0x05, 0x60, 0x1A, 0x6F, 0x3E, 0x61, 0x1E,
        0xF0, 0x29, 0xDF, 0x15] :: List.replicate 7 .cycle
    let state := ((fresh (.cycling []) false).run operations).1
    let drawing := (state.cycle.1.run [.tick, .setKey 3 true]).1
    DrawsGlyph 0xA 62 30 drawing drawing.cycle.1 ∧ drawing.cycle.1.cpu.v.get 0xF = 1 := by
  intro operations
  have spares : (fresh (.cycling []) false).SparesGlyphs operations := by decide +kernel
  have facts :
      let state := ((fresh (.cycling []) false).run operations).1
      let drawing := (state.cycle.1.run [.tick, .setKey 3 true]).1
      (state.paused = false ∧ state.nextInstruction? = some (.pointGlyph 0)) ∧
      drawing.nextInstruction? = some (.draw 0xF 1 5) ∧
      (state.cpu.v.get 0 = 0x1A ∧ state.cpu.v.get 0xF = 62 ∧ state.cpu.v.get 1 = 30) ∧
      drawing.screen.cells.get
        (Screen.torusCell screenWidth_pos screenHeight_pos 0 0) = true := by
    decide +kernel
  have shown := picture_of_glyph (.cycling []) false operations spares operations.length
  rw [List.take_length] at shown
  generalize ((fresh (.cycling []) false).run operations).1 = state at shown facts ⊢
  intro state' drawing
  obtain ⟨⟨running, points⟩, draws, ⟨digit, left, top⟩, lit⟩ := facts
  obtain ⟨-, -, -, drawn⟩ := shown.2 0 0xF 1 [.tick, .setKey 3 true] running points
    (by decide) draws
  rw [digit, left, top] at drawn
  refine ⟨drawn, drawn.flag.mpr ⟨0, 0, by decide, by decide, ?_, by decide⟩⟩
  rw [Screen.getPixel_eq screenWidth_pos screenHeight_pos]
  exact congrArg Except.ok lit

end Machine

end Chip8
