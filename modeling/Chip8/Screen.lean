import Chip8.Capacity

/-!
The screen: a picture of cells, each on or off, that closes up at its edges like a torus.
Sprites are drawn by exclusive or, so drawing the same sprite twice at the same place erases
it again.

Width and height are any integers whose product is not negative. Coordinates are reduced
modulo the dimensions, with the sign of the divisor, and a place before the first cell counts
back from the last one, so a screen of two negative dimensions has a cell for every coordinate
too. On a screen with a dimension of zero the reduction fails.
-/

namespace Chip8

/-- What a host last noted about a screen: whether the picture is newer than the one it has
shown, and the host's own wording of that, if it used one. -/
structure Mark where
  stale : Bool
  label : Option String := none
  deriving DecidableEq, Repr

/-- The note as the host is told it again: in its own wording, if it used one. -/
def Mark.wording (mark : Mark) : String :=
  mark.label.getD (if mark.stale then "true" else "false")

/-- The picture has been drawn on and not yet shown. -/
def Mark.changed : Mark := { stale := true }

/-- The picture has been shown. -/
def Mark.shown : Mark := { stale := false }

structure Screen (width height : Int) where
  /-- The cells row by row, top left first. -/
  cells : Vector Bool (width * height).toNat
  mark : Mark
  deriving DecidableEq, Repr

namespace Screen

variable {width height : Int}

inductive Fault where
  /-- Exactly one of the dimensions is negative. -/
  | negativeArea
  /-- The number of cells cannot be counted. -/
  | beyondWords
  /-- A coordinate was to be reduced modulo a dimension of zero. -/
  | missingDimension
  /-- A place is neither among the cells nor counts back from the last one. -/
  | noSuchCell (place : Int)
  /-- Rows of no cells cannot be told apart. -/
  | noRows
  deriving DecidableEq, Repr

def Fault.message : Fault → String
  | .negativeArea => "A screen cannot have a negative number of cells"
  | .beyondWords => Capacity.refusal
  | .missingDimension => "The screen has no width or no height"
  | .noSuchCell place => s!"The screen has no cell at place {place}"
  | .noRows => "Rows of no cells cannot be told apart"

/-- A screen with all cells off. -/
def blank (width height : Int) : Screen width height :=
  { cells := Vector.replicate _ false, mark := .shown }

/-- A screen of those dimensions, if their product is a word and counts cells. -/
def create (width height : Int) : Except Fault (Screen width height) :=
  if ¬ Capacity.IsWord (width * height) then .error .beyondWords
  else if width * height < 0 then .error .negativeArea
  else .ok (blank width height)

/-! ### Cells -/

/-- A coordinate within a dimension. -/
def reduce (coordinate dimension : Int) : Except Fault Int :=
  if dimension = 0 then .error .missingDimension else .ok (coordinate.fmod dimension)

/-- A reduced coordinate lies between zero and the dimension, on the side of its sign. -/
theorem bounds_of_reduce {coordinate dimension reduced : Int}
    (found : reduce coordinate dimension = .ok reduced) :
    (0 < dimension → 0 ≤ reduced ∧ reduced < dimension) ∧
      (dimension < 0 → dimension < reduced ∧ reduced ≤ 0) := by
  unfold reduce at found
  split at found
  · cases found
  · cases found
    refine ⟨fun positive => ⟨Int.fmod_nonneg_of_pos _ positive, Int.fmod_lt_of_pos _ positive⟩,
      fun negative => ?_⟩
    have opposite := Int.neg_fmod_neg (-coordinate) (-dimension)
    rw [Int.neg_neg, Int.neg_neg] at opposite
    have low := Int.fmod_nonneg_of_pos (-coordinate) (b := -dimension) (by omega)
    have high := Int.fmod_lt_of_pos (-coordinate) (b := -dimension) (by omega)
    omega

/-- The cell at a place in the row by row order. A negative place counts back from the last
cell. -/
def cellAt (width height place : Int) : Except Fault (Fin (width * height).toNat) :=
  let index := if place < 0 then place + width * height else place
  if inside : 0 ≤ index ∧ index < width * height then .ok ⟨index.toNat, by omega⟩
  else .error (.noSuchCell place)

/-- The cell under two coordinates, if there is one. -/
def cellOf (width height x y : Int) : Except Fault (Fin (width * height).toNat) := do
  let row ← reduce y height
  let column ← reduce x width
  cellAt width height (row * width + column)

/-- The state of the cell with these coordinates. -/
def getPixel (screen : Screen width height) (x y : Int) : Except Fault Bool :=
  (cellOf width height x y).map screen.cells.get

def clear (screen : Screen width height) : Screen width height :=
  { screen with cells := Vector.replicate _ false, mark := .changed }

def setMark (screen : Screen width height) (mark : Mark) : Screen width height :=
  { screen with mark }

/-! ### Drawing -/

/-- The columns of the set bits of a sprite's row, most significant bit first. -/
def setColumns (byte : UInt8) : List Nat :=
  (List.range 8).filter fun column => byte.toNat.testBit (7 - column)

/-- Cells in the course of drawing, and whether one of them has been switched off. -/
abbrev Drawing (width height : Int) := Vector Bool (width * height).toNat × Bool

/-- Switches one cell over. -/
def toggle (drawing : Drawing width height) (cell : Fin (width * height).toNat) :
    Drawing width height :=
  let lit := drawing.1[cell]
  (drawing.1.set cell !lit, drawing.2 || lit)

/-- What drawing one row of a sprite meets, from left to right: cells, and the faults where there is
none. The row is reduced before its columns are, and so even if no bit is set. -/
def rowTargets (width height x y : Int) (byte : UInt8) :
    List (Except Fault (Fin (width * height).toNat)) :=
  match reduce y height with
  | .error fault => [.error fault]
  | .ok row => (setColumns byte).map fun (column : Nat) => do
      let column ← reduce (x + column) width
      cellAt width height (row * width + column)

/-- What drawing a sprite meets, row by row. -/
def targets (width height x y : Int) (sprite : List UInt8) :
    List (Except Fault (Fin (width * height).toNat)) :=
  sprite.zipIdx.flatMap fun (byte, line) => rowTargets width height x (y + line) byte

/-- Switches cells over, up to the first that is missing. Those before it stay switched over. -/
def progress (drawing : Drawing width height) :
    List (Except Fault (Fin (width * height).toNat)) → Drawing width height × Option Fault
  | [] => (drawing, none)
  | .ok cell :: rest => progress (toggle drawing cell) rest
  | .error fault :: _ => (drawing, some fault)

/-- Draws a sprite with its top left corner at `x`, `y`. The answer tells whether a cell was
switched off. Drawing that fails leaves what it has drawn until then, and only at the end is the
picture marked as changed. -/
def draw (screen : Screen width height) (x y : Int) (sprite : List UInt8) :
    Screen width height × Except Fault Bool :=
  match progress (screen.cells, false) (targets width height x y sprite) with
  | (drawing, none) => ({ cells := drawing.1, mark := .changed }, .ok drawing.2)
  | (drawing, some fault) => ({ screen with cells := drawing.1 }, .error fault)

/-! ### Views -/

/-- One byte a cell, 1 for a cell that is on. -/
def dump (screen : Screen width height) : List UInt8 :=
  screen.cells.toList.map fun lit => if lit then 1 else 0

/-- The cells of one row. -/
def row (screen : Screen width height) (y : Nat) : List Bool :=
  (screen.cells.extract (y * width.toNat) ((y + 1) * width.toNat)).toList

/-- One line a row, written with `on` and `off`. A screen of negative width has no rows. -/
def toText (screen : Screen width height) (on off : String) : Except Fault String :=
  if width = 0 then
    .error .noRows
  else if width < 0 then
    .ok ""
  else
    .ok ("\n".intercalate ((List.range height.toNat).map fun y =>
      String.join ((screen.row y).map fun lit => if lit then on else off)))

end Screen

end Chip8
