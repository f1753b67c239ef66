import Chip8.Screen
import Mathlib.Algebra.Order.Group.Unbundled.Int
import Mathlib.Data.List.Nodup

/-!
Drawing on a screen that has width and height, where every coordinate has a cell.

* `draw_eq` — drawing never fails there: it switches over, one after the other, the cells under the
  set bits of the sprite.
* `get_foldl_toggle`, `collided_foldl_toggle` — what becomes of each cell, and when one is switched
  off.
* `mem_spriteCells_iff`, `nodup_spriteCells` — which cells lie under the set bits, and when they are
  all different.
* `length_dump`, `eq_zero_or_one_of_mem_dump` — a picture has a byte 0 or 1 for every cell.
-/

namespace Chip8.Screen

variable {width height : Int}

/-- The place of two reduced coordinates in the row by row order is one of the cells. -/
theorem place_bounds {row column : Int} (rowLow : 0 ≤ row) (rowHigh : row < height)
    (columnLow : 0 ≤ column) (columnHigh : column < width) :
    0 ≤ row * width + column ∧ row * width + column < width * height := by
  have low : 0 ≤ row * width := Int.mul_nonneg rowLow (by omega)
  have high : (row + 1) * width ≤ height * width :=
    Int.mul_le_mul_of_nonneg_right (by omega) (by omega)
  rw [Int.add_mul, Int.one_mul, Int.mul_comm height] at high
  omega

section Torus

variable (wide : 0 < width) (high : 0 < height)

/-- The cell under two coordinates, each closed up at its edge. -/
def torusCell (x y : Int) : Fin (width * height).toNat :=
  ⟨(y.fmod height * width + x.fmod width).toNat, by
    have bounds := place_bounds (Int.fmod_nonneg_of_pos y high) (Int.fmod_lt_of_pos y high)
      (Int.fmod_nonneg_of_pos x wide) (Int.fmod_lt_of_pos x wide)
    omega⟩

/-- The cells under the set bits of one row of a sprite, from left to right. -/
def rowCells (x y : Int) (byte : UInt8) : List (Fin (width * height).toNat) :=
  (setColumns byte).map fun (column : Nat) => torusCell wide high (x + column) y

/-- The cells under the set bits of a sprite, in the order of drawing. -/
def spriteCells (x y : Int) (sprite : List UInt8) : List (Fin (width * height).toNat) :=
  sprite.zipIdx.flatMap fun (byte, line) => rowCells wide high x (y + line) byte

/-- Reduced coordinates meet in a cell. -/
theorem cellAt_fmod (x y : Int) :
    cellAt width height (y.fmod height * width + x.fmod width) = .ok (torusCell wide high x y) := by
  obtain ⟨low, inside⟩ := place_bounds (Int.fmod_nonneg_of_pos y high) (Int.fmod_lt_of_pos y high)
    (Int.fmod_nonneg_of_pos x wide) (Int.fmod_lt_of_pos x wide)
  simp only [cellAt, Int.not_lt.mpr low, if_false]
  exact dif_pos ⟨low, inside⟩

theorem reduce_of_pos {dimension : Int} (positive : 0 < dimension) (coordinate : Int) :
    reduce coordinate dimension = .ok (coordinate.fmod dimension) :=
  if_neg (Int.ne_of_gt positive)

/-- There is a cell under all coordinates. -/
theorem cellOf_torus (x y : Int) : cellOf width height x y = .ok (torusCell wide high x y) := by
  unfold cellOf
  rw [reduce_of_pos high, reduce_of_pos wide]
  exact cellAt_fmod wide high x y

theorem rowTargets_eq (x y : Int) (byte : UInt8) :
    rowTargets width height x y byte = (rowCells wide high x y byte).map .ok := by
  unfold rowTargets
  rw [reduce_of_pos high, rowCells, List.map_map]
  refine List.map_congr_left fun column _ => ?_
  rw [reduce_of_pos wide]
  exact cellAt_fmod wide high (x + column) y

/-- Drawing meets the cells under the set bits, and nothing else. -/
theorem targets_eq (x y : Int) (sprite : List UInt8) :
    targets width height x y sprite = (spriteCells wide high x y sprite).map .ok := by
  rw [targets, spriteCells, List.map_flatMap]
  refine List.flatMap_congr fun ⟨byte, line⟩ _ => ?_
  exact rowTargets_eq wide high x (y + line) byte

/-- Nothing stops at cells. -/
theorem progress_map_ok (cells : List (Fin (width * height).toNat))
    (drawing : Drawing width height) :
    progress drawing (cells.map .ok) = (cells.foldl toggle drawing, none) := by
  induction cells generalizing drawing with
  | nil => rfl
  | cons cell rest ih => exact ih (toggle drawing cell)

/-- Drawing switches over the cells under the set bits of the sprite, and marks the picture as
changed even if there are none. -/
theorem draw_eq (screen : Screen width height) (x y : Int) (sprite : List UInt8) :
    screen.draw x y sprite =
      let drawn := (spriteCells wide high x y sprite).foldl toggle (screen.cells, false)
      ({ cells := drawn.1, mark := .changed }, .ok drawn.2) := by
  unfold draw
  rw [targets_eq wide high, progress_map_ok]

end Torus

/-! ### Switching cells over -/

section Toggle

variable (cells : List (Fin (width * height).toNat)) (drawing : Drawing width height)

theorem get_toggle (cell other : Fin (width * height).toNat) :
    (toggle drawing cell).1.get other =
      if other = cell then !drawing.1.get other else drawing.1.get other := by
  show (drawing.1.set cell.val (!drawing.1[cell.val]))[other.val] =
    if other = cell then !drawing.1[other.val] else drawing.1[other.val]
  rw [Vector.getElem_set]
  by_cases same : cell = other
  · subst same
    simp
  · rw [if_neg (mt Fin.ext same), if_neg (Ne.symm same)]

/-- A cell is switched over as often as it is met. -/
theorem get_foldl_toggle (cell : Fin (width * height).toNat) :
    (cells.foldl toggle drawing).1.get cell =
      (drawing.1.get cell ^^ decide (cells.count cell % 2 = 1)) := by
  induction cells generalizing drawing with
  | nil => simp
  | cons first rest ih =>
      rw [List.foldl_cons, ih, get_toggle, List.count_cons]
      by_cases met : cell = first
      · subst met
        rcases Nat.mod_two_eq_zero_or_one (rest.count cell) with even | odd
        · simp [even, Nat.add_mod]
        · simp [odd, Nat.add_mod]
      · simp [met, Ne.symm met]

/-- A cell is switched off if it was on before, or is met more than once. -/
theorem collided_foldl_toggle :
    (cells.foldl toggle drawing).2 = true ↔
      drawing.2 = true ∨ ∃ cell ∈ cells, drawing.1.get cell = true ∨ 2 ≤ cells.count cell := by
  induction cells generalizing drawing with
  | nil => simp
  | cons first rest ih =>
      have flag : (toggle drawing first).2 = true ↔
          drawing.2 = true ∨ drawing.1.get first = true := by
        simp [toggle, Vector.get]
      rw [List.foldl_cons, ih, flag, or_assoc]
      apply or_congr_right
      constructor
      · rintro (lit | ⟨cell, member, met⟩)
        · exact ⟨first, List.mem_cons_self, .inl lit⟩
        · refine ⟨cell, List.mem_cons_of_mem _ member, ?_⟩
          rw [get_toggle] at met
          by_cases same : cell = first
          · subst same
            have again := List.count_pos_iff.mpr member
            rw [List.count_cons_self]
            exact .inr (by omega)
          · rw [if_neg same] at met
            exact met.imp_right fun twice => Nat.le_trans twice List.count_le_count_cons
      · rintro ⟨cell, member, met⟩
        by_cases lit : drawing.1.get first = true
        · exact .inl lit
        -- The first cell was off, so it is on for the rest, and switched off if it is met again.
        right
        have on : (toggle drawing first).1.get first = true := by
          rw [get_toggle, if_pos rfl]
          simpa using lit
        by_cases same : cell = first
        · subst same
          have twice := met.resolve_left lit
          rw [List.count_cons_self] at twice
          exact ⟨cell, List.count_pos_iff.mp (by omega), .inl on⟩
        · refine ⟨cell, (List.mem_cons.mp member).resolve_left same, ?_⟩
          rwa [get_toggle, if_neg same, ← List.count_cons_of_ne (Ne.symm same)]

/-- Cells that are all different are switched over once each. -/
theorem get_foldl_toggle_of_nodup (distinct : cells.Nodup) (cell : Fin (width * height).toNat) :
    (cells.foldl toggle drawing).1.get cell = (drawing.1.get cell ^^ cells.contains cell) := by
  rw [get_foldl_toggle, distinct.count, List.contains_eq_mem]
  by_cases member : cell ∈ cells <;> simp [member]

theorem collided_foldl_toggle_of_nodup (distinct : cells.Nodup) :
    (cells.foldl toggle drawing).2 = true ↔
      drawing.2 = true ∨ ∃ cell ∈ cells, drawing.1.get cell = true := by
  rw [collided_foldl_toggle]
  have once (cell : Fin (width * height).toNat) : ¬ 2 ≤ cells.count cell := by
    have most := List.nodup_iff_count_le_one.mp distinct cell
    omega
  simp [once]

end Toggle

/-! ### Cells under a sprite -/

section Torus

variable (wide : 0 < width) (high : 0 < height)

/-- Every pixel of the screen is that of a cell. -/
theorem getPixel_eq (screen : Screen width height) (x y : Int) :
    screen.getPixel x y = .ok (screen.cells.get (torusCell wide high x y)) := by
  rw [getPixel, cellOf_torus wide high]
  rfl

/-- A place in the row by row order is that of one row and one column. -/
theorem place_inj {row column row' column' : Int} (low : 0 ≤ column) (below : column < width)
    (low' : 0 ≤ column') (below' : column' < width) :
    row * width + column = row' * width + column' ↔ column = column' ∧ row = row' := by
  constructor
  · intro same
    have columns : column = column' := by
      have rests := congrArg (· % width) same
      simpa [Int.emod_eq_of_lt low below, Int.emod_eq_of_lt low' below'] using rests
    have positive : width ≠ 0 := by omega
    have rows : row * width = row' * width := by omega
    exact ⟨columns, Int.eq_of_mul_eq_mul_right positive rows⟩
  · rintro ⟨rfl, rfl⟩
    rfl

/-- Coordinates meet in a cell if and only if they agree up to the dimensions. -/
theorem torusCell_eq_iff {x y x' y' : Int} :
    torusCell wide high x y = torusCell wide high x' y' ↔
      x.fmod width = x'.fmod width ∧ y.fmod height = y'.fmod height := by
  have column (x : Int) := And.intro (Int.fmod_nonneg_of_pos x wide) (Int.fmod_lt_of_pos x wide)
  have row (y : Int) := And.intro (Int.fmod_nonneg_of_pos y high) (Int.fmod_lt_of_pos y high)
  have place (x y : Int) := place_bounds (row y).1 (row y).2 (column x).1 (column x).2
  have first := place x y
  have second := place x' y'
  rw [← place_inj (column x).1 (column x).2 (column x').1 (column x').2, Fin.ext_iff]
  simp only [torusCell]
  omega

/-- Every cell is that of one row and one column. -/
theorem exists_torusCell (cell : Fin (width * height).toNat) :
    ∃ px py : Nat, px < width ∧ py < height ∧ torusCell wide high px py = cell := by
  obtain ⟨place, inside⟩ := cell
  have split := Int.emod_add_mul_ediv place width
  have columnLow := Int.emod_nonneg place (Int.ne_of_gt wide)
  have columnHigh := Int.emod_lt_of_pos place wide
  have rowLow := Int.ediv_nonneg (Int.natCast_nonneg place) (Int.le_of_lt wide)
  have rowHigh : place / width < height := Int.ediv_lt_of_lt_mul wide (by
    rw [Int.mul_comm]
    omega)
  refine ⟨(place % width).toNat, (place / width).toNat, by omega, by omega, Fin.ext ?_⟩
  simp only [torusCell, Int.toNat_of_nonneg columnLow, Int.toNat_of_nonneg rowLow]
  rw [Int.fmod_eq_emod_of_nonneg _ (Int.le_of_lt wide),
    Int.fmod_eq_emod_of_nonneg _ (Int.le_of_lt high), Int.emod_eq_of_lt columnLow columnHigh,
    Int.emod_eq_of_lt rowLow rowHigh, Int.mul_comm]
  omega

/-- A bit of a sprite that is set lands on a pixel. -/
def Covered (width height x y : Int) (sprite : List UInt8) (px py : Int) : Prop :=
  ∃ line < sprite.length, ∃ column < 8,
    (sprite[line]?.getD 0).toNat.testBit (7 - column) = true ∧
      (x + column).fmod width = px.fmod width ∧ (y + line).fmod height = py.fmod height

instance Covered.decidable (width height x y : Int) (sprite : List UInt8) (px py : Int) :
    Decidable (Covered width height x y sprite px py) :=
  inferInstanceAs (Decidable (∃ line < _, ∃ column < 8, _))

theorem mem_spriteCells_iff {x y px py : Int} {sprite : List UInt8} :
    torusCell wide high px py ∈ spriteCells wide high x y sprite ↔
      Covered width height x y sprite px py := by
  simp only [spriteCells, rowCells, setColumns, Covered, List.mem_flatMap, List.mem_map,
    List.mem_filter, List.mem_range, Prod.exists, List.mem_zipIdx_iff_getElem?, torusCell_eq_iff]
  constructor
  · rintro ⟨byte, line, found, column, ⟨inside, set⟩, place⟩
    refine ⟨line, (List.getElem?_eq_some_iff.mp found).1, column, inside, ?_, place⟩
    rw [found]
    exact set
  · rintro ⟨line, within, column, inside, set, place⟩
    rw [List.getElem?_eq_getElem within] at set
    exact ⟨_, line, List.getElem?_eq_getElem within, column, ⟨inside, set⟩, place⟩

/-- Within one dimension of each other, coordinates are told apart by their reductions. -/
theorem offset_inj {coordinate dimension : Int} {first second : Nat} (below : first < dimension)
    (below' : second < dimension)
    (same : (coordinate + first).fmod dimension = (coordinate + second).fmod dimension) :
    first = second := by
  rw [Int.fmod_eq_emod_of_nonneg _ (by omega), Int.fmod_eq_emod_of_nonneg _ (by omega),
    Int.emod_eq_emod_iff_emod_sub_eq_zero] at same
  have divides := Int.dvd_of_emod_eq_zero same
  have zero := Int.eq_zero_of_abs_lt_dvd divides (abs_lt.mpr ⟨by omega, by omega⟩)
  omega

/-- A sprite that fits into the screen meets no cell twice. -/
theorem nodup_spriteCells {x y : Int} {sprite : List UInt8} (narrow : 8 ≤ width)
    (short : sprite.length ≤ height) : (spriteCells wide high x y sprite).Nodup := by
  refine List.nodup_flatMap.mpr ⟨?_, ?_⟩
  · rintro ⟨byte, line⟩ _
    refine List.Nodup.map_on ?_ (List.nodup_range.filter _)
    intro first firstMember second secondMember same
    have firstInside := List.mem_range.mp (List.mem_filter.mp firstMember).1
    have secondInside := List.mem_range.mp (List.mem_filter.mp secondMember).1
    exact offset_inj (by omega) (by omega) ((torusCell_eq_iff wide high).mp same).1
  · rw [List.pairwise_iff_getElem]
    intro first second firstInside secondInside before cell inFirst inSecond
    rw [List.length_zipIdx] at firstInside secondInside
    simp only [List.getElem_zipIdx, rowCells, List.mem_map] at inFirst inSecond
    obtain ⟨column, -, rfl⟩ := inFirst
    obtain ⟨column', -, same⟩ := inSecond
    have lines := offset_inj (by omega) (by omega) ((torusCell_eq_iff wide high).mp same).2
    omega

end Torus

/-! ### Pictures -/

@[simp] theorem length_dump (screen : Screen width height) :
    screen.dump.length = (width * height).toNat := by
  simp [dump]

theorem eq_zero_or_one_of_mem_dump {screen : Screen width height} {pixel : UInt8}
    (member : pixel ∈ screen.dump) : pixel = 0 ∨ pixel = 1 := by
  obtain ⟨lit, -, rfl⟩ := List.mem_map.mp member
  cases lit with
  | false => exact .inl rfl
  | true => exact .inr rfl

end Chip8.Screen
