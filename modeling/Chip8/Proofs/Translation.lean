import Chip8.Proofs.Drawing

/-!
Drawing is the same everywhere on the torus.

A picture can be moved over the edges of the screen, and what is drawn on it moves along: no place
on the screen is special.

* `moved` — where a cell gets to. It is a permutation of the cells (`moved_moved`), and the cells
  under a sprite are moved with it (`spriteCells_moved`).
* `shift` — the whole picture moved.
* `Shifted` — two drawings in progress, the second a shift of the first; kept by switching a cell
  over (`Shifted.toggle`), and so by drawing (`Shifted.foldl`).
* `draw_shift` — drawing on a picture that has been moved, and drawing whole screens away.
-/

namespace Chip8.Screen

variable {width height : Int} (wide : 0 < width) (high : 0 < height)

/-! ### Cells -/

/-- The cell so many columns to the right and so many rows below, closed up at the edges. -/
def moved (dx dy : Int) (cell : Fin (width * height).toNat) : Fin (width * height).toNat :=
  torusCell wide high (cell.val % width + dx) (cell.val / width + dy)

theorem moved_torusCell (dx dy x y : Int) :
    moved wide high dx dy (torusCell wide high x y) = torusCell wide high (x + dx) (y + dy) := by
  have columnLow := Int.fmod_nonneg_of_pos x wide
  have columnHigh := Int.fmod_lt_of_pos x wide
  have place := place_bounds (Int.fmod_nonneg_of_pos y high) (Int.fmod_lt_of_pos y high)
    columnLow columnHigh
  have value : ((torusCell wide high x y).val : Int) = y.fmod height * width + x.fmod width :=
    Int.toNat_of_nonneg place.1
  have column : ((torusCell wide high x y).val : Int) % width = x.fmod width := by
    rw [value, Int.mul_add_emod_self_right, Int.emod_eq_of_lt columnLow columnHigh]
  have row : ((torusCell wide high x y).val : Int) / width = y.fmod height := by
    rw [value, Int.add_comm, Int.add_mul_ediv_right _ _ (Int.ne_of_gt wide),
      Int.ediv_eq_zero_of_lt columnLow columnHigh, Int.zero_add]
  rw [moved, column, row]
  exact (torusCell_eq_iff wide high).mpr ⟨Int.fmod_add_fmod _ _ _, Int.fmod_add_fmod _ _ _⟩

theorem moved_moved (dx dy dx' dy' : Int) (cell : Fin (width * height).toNat) :
    moved wide high dx' dy' (moved wide high dx dy cell) =
      moved wide high (dx + dx') (dy + dy') cell := by
  obtain ⟨px, py, -, -, rfl⟩ := exists_torusCell wide high cell
  simp only [moved_torusCell, Int.add_assoc]

/-- Whole screens away there is the same cell. -/
theorem moved_of_period (columns rows : Int) (cell : Fin (width * height).toNat) :
    moved wide high (columns * width) (rows * height) cell = cell := by
  obtain ⟨px, py, -, -, rfl⟩ := exists_torusCell wide high cell
  rw [moved_torusCell]
  exact (torusCell_eq_iff wide high).mpr
    ⟨Int.add_mul_fmod_self_right _ _ _, Int.add_mul_fmod_self_right _ _ _⟩

/-- Moving back undoes moving. -/
theorem moved_back (dx dy : Int) (cell : Fin (width * height).toNat) :
    moved wide high (-dx) (-dy) (moved wide high dx dy cell) = cell := by
  have still := moved_of_period wide high 0 0 cell
  rw [Int.zero_mul, Int.zero_mul] at still
  rw [moved_moved, Int.add_right_neg, Int.add_right_neg, still]

theorem moved_inj {dx dy : Int} {cell other : Fin (width * height).toNat} :
    moved wide high dx dy cell = moved wide high dx dy other ↔ cell = other := by
  constructor
  · intro same
    have back := congrArg (moved wide high (-dx) (-dy)) same
    rwa [moved_back, moved_back] at back
  · rintro rfl
    rfl

/-- A sprite that is drawn elsewhere meets the cells that are as far from those it met before. -/
theorem spriteCells_moved (x y dx dy : Int) (sprite : List UInt8) :
    spriteCells wide high (x + dx) (y + dy) sprite =
      (spriteCells wide high x y sprite).map (moved wide high dx dy) := by
  simp only [spriteCells, rowCells, List.map_flatMap, List.map_map]
  refine congrArg (List.flatMap · _) (funext fun line => List.map_congr_left fun column _ => ?_)
  rw [Function.comp_apply, moved_torusCell, Int.add_right_comm x, Int.add_right_comm y]

/-! ### Pictures -/

/-- The picture moved to the right and down, closed up at the edges. -/
def shift (screen : Screen width height) (dx dy : Int) : Screen width height :=
  { screen with
    cells := Vector.ofFn fun cell => screen.cells.get (moved wide high (-dx) (-dy) cell) }

theorem get_shift (screen : Screen width height) (dx dy : Int) (cell : Fin (width * height).toNat) :
    (screen.shift wide high dx dy).cells.get cell =
      screen.cells.get (moved wide high (-dx) (-dy) cell) :=
  Vector.getElem_ofFn _

/-- Every pixel of the picture is found where it has been moved to. -/
theorem getPixel_shift (screen : Screen width height) (dx dy px py : Int) :
    (screen.shift wide high dx dy).getPixel (px + dx) (py + dy) = screen.getPixel px py := by
  rw [getPixel_eq wide high, getPixel_eq wide high, get_shift, ← moved_torusCell, moved_back]

/-- A picture whose cells are those of another one moved is its shift. -/
theorem cells_shift (screen : Screen width height) {cells : Vector Bool (width * height).toNat}
    {dx dy : Int}
    (same : ∀ cell, cells.get (moved wide high dx dy cell) = screen.cells.get cell) :
    (screen.shift wide high dx dy).cells = cells := by
  refine Vector.ext fun place inside => ?_
  have here := same (moved wide high (-dx) (-dy) ⟨place, inside⟩)
  have forth := moved_back wide high (-dx) (-dy) ⟨place, inside⟩
  rw [Int.neg_neg, Int.neg_neg] at forth
  rw [forth, ← get_shift] at here
  exact here.symm

/-- Moved by whole screens a picture stays the same. -/
theorem shift_of_period (screen : Screen width height) (columns rows : Int) :
    screen.shift wide high (columns * width) (rows * height) = screen := by
  have cells : (screen.shift wide high (columns * width) (rows * height)).cells = screen.cells :=
    screen.cells_shift wide high fun cell => by rw [moved_of_period]
  exact congrArg (fun cells => { screen with cells }) cells

/-! ### Drawing -/

/-- Two drawings in progress with the same answer so far, the second on the cells of the first
moved. -/
structure Shifted (dx dy : Int) (drawing other : Drawing width height) : Prop where
  cells : ∀ cell, other.1.get (moved wide high dx dy cell) = drawing.1.get cell
  collided : other.2 = drawing.2

namespace Shifted

variable {wide high} {dx dy : Int} {drawing other : Drawing width height}

/-- Switching a cell over, and the moved one in the other drawing. -/
theorem toggle (shifted : Shifted wide high dx dy drawing other)
    (cell : Fin (width * height).toNat) :
    Shifted wide high dx dy (Screen.toggle drawing cell)
      (Screen.toggle other (moved wide high dx dy cell)) where
  cells := by
    intro place
    rw [get_toggle, get_toggle, shifted.cells]
    by_cases same : place = cell
    · rw [if_pos same, if_pos ((moved_inj wide high).mpr same)]
    · rw [if_neg same, if_neg (mt (moved_inj wide high).mp same)]
  collided := by
    show (other.2 || other.1.get _) = (drawing.2 || drawing.1.get cell)
    rw [shifted.cells, shifted.collided]

theorem foldl (shifted : Shifted wide high dx dy drawing other)
    (cells : List (Fin (width * height).toNat)) :
    Shifted wide high dx dy (cells.foldl Screen.toggle drawing)
      ((cells.map (moved wide high dx dy)).foldl Screen.toggle other) := by
  induction cells generalizing drawing other with
  | nil => exact shifted
  | cons cell rest ih => exact ih (shifted.toggle cell)

end Shifted

theorem draw_moved (screen : Screen width height) (x y dx dy : Int) (sprite : List UInt8) :
    ∃ next collided, screen.draw x y sprite = (next, .ok collided) ∧
      (screen.shift wide high dx dy).draw (x + dx) (y + dy) sprite =
        (next.shift wide high dx dy, .ok collided) := by
  have start : Shifted wide high dx dy (screen.cells, false)
      ((screen.shift wide high dx dy).cells, false) :=
    ⟨fun cell => by rw [get_shift, moved_back], rfl⟩
  have drawn := start.foldl (spriteCells wide high x y sprite)
  let next : Screen width height :=
    { cells := ((spriteCells wide high x y sprite).foldl Screen.toggle (screen.cells, false)).1
      mark := .changed }
  have cells := next.cells_shift wide high drawn.cells
  refine ⟨next, _, draw_eq wide high screen x y sprite, ?_⟩
  rw [draw_eq wide high, spriteCells_moved]
  simp only [← cells, drawn.collided]
  rfl

/-- Drawing is the same everywhere on the torus.

If a picture is moved over the edges of the screen and the sprite is drawn as far from where it
would have been drawn, the result is the picture after drawing, moved, and the answer is the same.
In particular, drawing whole screens away is no different. -/
theorem draw_shift (screen : Screen width height) (x y dx dy : Int) (sprite : List UInt8) :
    ∃ next collided, screen.draw x y sprite = (next, .ok collided) ∧
      (screen.shift wide high dx dy).draw (x + dx) (y + dy) sprite =
        (next.shift wide high dx dy, .ok collided) ∧
      (∀ columns rows : Int, screen.draw (x + columns * width) (y + rows * height) sprite =
        (next, .ok collided)) ∧
      ∀ (picture : Screen width height) (px py : Int),
        (picture.shift wide high dx dy).getPixel (px + dx) (py + dy) = picture.getPixel px py := by
  obtain ⟨next, collided, drawn, along⟩ := draw_moved wide high screen x y dx dy sprite
  refine ⟨next, collided, drawn, along, fun columns rows => ?_,
    fun picture => picture.getPixel_shift wide high dx dy⟩
  obtain ⟨also, answer, here, there⟩ :=
    draw_moved wide high screen x y (columns * width) (rows * height) sprite
  rw [shift_of_period, shift_of_period, ← here] at there
  exact there.trans drawn

/-- Four lines of a sprite around the lower right corner, and the same sprite around the upper left
one of the picture moved there. Every seventh cell has been lit. -/
theorem draw_shift_over_corners :
    ∃ (wide : (0 : Int) < 9) (high : (0 : Int) < 5) (next : Screen 9 5),
      let screen : Screen 9 5 :=
        { cells := Vector.ofFn fun cell => cell.val % 7 == 0, mark := .shown }
      screen.draw 6 3 [0xFF, 0x81, 0x18, 0xC3] = (next, .ok true) ∧
        (screen.shift wide high (-7) 11).draw (-1) 14 [0xFF, 0x81, 0x18, 0xC3] =
          (next.shift wide high (-7) 11, .ok true) ∧
        screen.draw (-12) 13 [0xFF, 0x81, 0x18, 0xC3] = (next, .ok true) ∧
        (screen.shift wide high (-7) 11).getPixel (-7) 11 = .ok true := by
  let screen : Screen 9 5 :=
    { cells := Vector.ofFn fun cell => cell.val % 7 == 0, mark := .shown }
  have wide : (0 : Int) < 9 := by decide
  have high : (0 : Int) < 5 := by decide
  obtain ⟨next, collided, drawn, along, away, pixels⟩ :=
    draw_shift wide high screen 6 3 (-7) 11 [0xFF, 0x81, 0x18, 0xC3]
  have answer : (screen.draw 6 3 [0xFF, 0x81, 0x18, 0xC3]).2 = .ok true := by decide +kernel
  rw [drawn] at answer
  obtain rfl : collided = true := Except.ok.inj answer
  have lit : screen.getPixel 0 0 = .ok true := by decide +kernel
  have far := away (-2) 2
  have corner := (pixels screen 0 0).trans lit
  -- The sums of the coordinates, before drawing can be unfolded to compare them.
  have column : (6 : Int) + -7 = -1 := by decide
  have row : (3 : Int) + 11 = 14 := by decide
  have column' : (6 : Int) + -2 * 9 = -12 := by decide
  have row' : (3 : Int) + 2 * 5 = 13 := by decide
  rw [column, row] at along
  rw [column', row'] at far
  rw [Int.zero_add, Int.zero_add] at corner
  exact ⟨wide, high, next, drawn, along, far, corner⟩

end Chip8.Screen
