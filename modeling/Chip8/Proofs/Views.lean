import Chip8.Proofs.Drawing
import Chip8.Proofs.Splitting

/-!
The three views of one screen: its pixels by their coordinates, the picture with a byte a cell, and
the text with a line a row.

* `torusCell_of_inside` — the place of a cell, by its column and row.
* `getPixel_add_mul` — pixels repeat in both directions.
* `getElem?_dump`, `getElem?_row` — the byte of a pixel in the picture, and its place in a row.
* `splitOn_toText` — the text is cut into the rows again.
* `toText_inj` — the text tells screens apart.
* `views_of_screen` — all views show the same pixels.
-/

namespace Chip8.Screen

variable {width height : Int} (wide : 0 < width) (high : 0 < height)

/-! ### Pixels -/

include wide high in
/-- Pixels repeat with the dimensions. -/
theorem getPixel_add_mul (screen : Screen width height) (x y timesX timesY : Int) :
    screen.getPixel (x + timesX * width) (y + timesY * height) = screen.getPixel x y := by
  have same : torusCell wide high (x + timesX * width) (y + timesY * height) =
      torusCell wide high x y :=
    (torusCell_eq_iff wide high).mpr
      ⟨Int.add_mul_fmod_self_right .., Int.add_mul_fmod_self_right ..⟩
  rw [getPixel_eq wide high, getPixel_eq wide high, same]

/-- Row by row, a cell comes behind the rows above it and the columns to its left. -/
theorem torusCell_of_inside {x y : Nat} (column : x < width) (row : y < height) :
    (torusCell wide high x y).val = y * width.toNat + x := by
  have place : (y : Int) * width + x = (y * width.toNat + x : Nat) := by
    rw [Int.natCast_add, Int.natCast_mul, Int.toNat_of_nonneg wide.le]
  show ((y : Int).fmod height * width + (x : Int).fmod width).toNat = _
  rw [Int.fmod_eq_of_lt (Int.natCast_nonneg y) row, Int.fmod_eq_of_lt (Int.natCast_nonneg x) column,
    place, Int.toNat_natCast]

/-- The cell with given coordinates, at its place. -/
theorem getElem?_cells (screen : Screen width height) {x y : Nat} (column : x < width)
    (row : y < height) :
    screen.cells[y * width.toNat + x]? = some (screen.cells.get (torusCell wide high x y)) := by
  rw [← torusCell_of_inside wide high column row]
  exact Vector.getElem?_eq_getElem (torusCell wide high x y).isLt

theorem getElem?_dump (screen : Screen width height) {x y : Nat} (column : x < width)
    (row : y < height) :
    screen.dump[y * width.toNat + x]? =
      some (if screen.cells.get (torusCell wide high x y) then 1 else 0) := by
  rw [dump, List.getElem?_map, Vector.getElem?_toList, getElem?_cells wide high screen column row]
  rfl

/-! ### Rows -/

include wide in
/-- The end of a row is not behind the last cell. -/
theorem row_end_le {y : Nat} (row : y < height) :
    (y + 1) * width.toNat ≤ (width * height).toNat := by
  rw [Int.toNat_mul wide.le (by omega), Nat.mul_comm width.toNat]
  exact Nat.mul_le_mul_right _ (by omega)

include wide in
theorem length_row (screen : Screen width height) {y : Nat} (row : y < height) :
    (screen.row y).length = width.toNat := by
  have inside := row_end_le wide row
  rw [Nat.add_mul, Nat.one_mul] at inside
  simp only [Screen.row, Vector.length_toList, Nat.add_mul, Nat.one_mul]
  omega

theorem getElem?_row (screen : Screen width height) {x y : Nat} (column : x < width)
    (row : y < height) :
    (screen.row y)[x]? = some (screen.cells.get (torusCell wide high x y)) := by
  have inside := row_end_le wide row
  rw [← getElem?_cells wide high screen column row, Screen.row, Vector.getElem?_toList,
    Vector.getElem?_extract, if_pos]
  rw [Nat.add_mul, Nat.one_mul] at inside ⊢
  omega

include wide high in
/-- A screen is the same as another if all its rows are. -/
theorem cells_eq_of_rows {screen other : Screen width height}
    (rows : ∀ y : Nat, y < height → screen.row y = other.row y) : screen.cells = other.cells := by
  refine Vector.ext fun place inside => ?_
  obtain ⟨x, y, column, row, found⟩ := exists_torusCell wide high ⟨place, inside⟩
  have same := congrArg (·[x]?) (rows y row)
  rw [getElem?_row wide high screen column row, getElem?_row wide high other column row, found,
    Option.some.injEq] at same
  exact same

/-! ### Texts -/

/-- The characters of a line. -/
def line (screen : Screen width height) (on off : Char) (y : Nat) : List Char :=
  (screen.row y).map fun lit => if lit then on else off

theorem join_row (screen : Screen width height) (on off : Char) (y : Nat) :
    String.join ((screen.row y).map fun lit =>
      if lit then String.singleton on else String.singleton off) =
      String.ofList (screen.line on off y) := by
  rw [String.join_eq, line]
  congr 1
  induction screen.row y with
  | nil => rfl
  | cons lit rest ih => cases lit <;> simpa using ih

theorem not_mem_line (screen : Screen width height) {on off c : Char} (other : on ≠ c)
    (other' : off ≠ c) (y : Nat) : c ∉ screen.line on off y := by
  intro member
  obtain ⟨lit, -, same⟩ := List.mem_map.mp member
  cases lit with
  | false => exact other' same
  | true => exact other same

include wide high in
/-- A text that is not written with line breaks is cut at them into the rows of the screen. -/
theorem splitOn_toText (screen : Screen width height) {on off : Char} (plain : on ≠ '\n')
    (plain' : off ≠ '\n') :
    ∃ text, screen.toText (String.singleton on) (String.singleton off) = .ok text ∧
      text.splitOn "\n" =
        (List.range height.toNat).map fun y => String.ofList (screen.line on off y) := by
  refine ⟨_, by rw [toText, if_neg (Int.ne_of_gt wide), if_neg (Int.not_lt.mpr wide.le)], ?_⟩
  have rows : (List.range height.toNat).map (screen.line on off) ≠ [] := by
    rw [Ne, List.map_eq_nil_iff, List.range_eq_nil]
    omega
  have cut := List.splitOn_intercalate '\n'
    (List.forall_mem_map.mpr fun y _ => screen.not_mem_line plain plain' y) rows
  simp only [join_row]
  rw [show "\n" = String.singleton '\n' from rfl, Text.splitOn_of_single,
    String.toList_intercalate, List.map_map]
  simp only [Function.comp_def, String.toList_ofList]
  exact (congrArg (List.map String.ofList) cut).trans List.map_map

include wide high in
/-- Texts of screens of the same dimensions are the same if and only if their cells are. -/
theorem toText_inj {screen other : Screen width height} {on off : Char} (plain : on ≠ '\n')
    (plain' : off ≠ '\n') (apart : on ≠ off) :
    screen.toText (String.singleton on) (String.singleton off) =
        other.toText (String.singleton on) (String.singleton off) ↔
      screen.cells = other.cells := by
  constructor
  · intro same
    obtain ⟨text, written, lines⟩ := splitOn_toText wide high screen plain plain'
    obtain ⟨text', written', lines'⟩ := splitOn_toText wide high other plain plain'
    rw [written, written', Except.ok.injEq] at same
    rw [same, lines', List.map_inj_left] at lines
    refine cells_eq_of_rows wide high fun y row => ?_
    have line := String.ofList_inj.mp (lines y (List.mem_range.mpr (by omega)))
    have told : Function.Injective fun lit : Bool => if lit then on else off := by
      intro lit lit' same
      cases lit <;> cases lit' <;> simp_all
    exact (List.map_injective_iff.mpr told line).symm
  · intro same
    rw [toText, toText]
    simp only [Screen.row, same]

/-! ### All views -/

include wide high in
/-- The views of a screen with width and height agree, whatever has been drawn on it.

The picture has a byte for every cell, 1 where a pixel is on and 0 where it is off, row by row. The
pixels repeat with the dimensions. Written with two characters, neither of them a line break, the
text is cut at its line breaks into one line a row, each with one character a column that tells the
pixel. If the two characters differ, other screens of the same dimensions have the same text just
when they have the same cells. -/
theorem views_of_screen (screen : Screen width height) :
    screen.dump.length = (width * height).toNat ∧
      (∀ x y : Nat, x < width → y < height →
        ∃ lit, screen.getPixel x y = .ok lit ∧
          screen.dump[y * width.toNat + x]? = some (if lit then 1 else 0)) ∧
      (∀ x y timesX timesY : Int,
        screen.getPixel (x + timesX * width) (y + timesY * height) = screen.getPixel x y) ∧
      ∀ on off : Char, on ≠ '\n' → off ≠ '\n' →
        (∃ text, screen.toText (String.singleton on) (String.singleton off) = .ok text ∧
          (text.splitOn "\n").length = height.toNat ∧
          ∀ y : Nat, y < height → ∃ line, (text.splitOn "\n")[y]? = some line ∧
            line.length = width.toNat ∧
            ∀ x : Nat, x < width → ∃ lit, screen.getPixel x y = .ok lit ∧
              line.toList[x]? = some (if lit then on else off)) ∧
          (on ≠ off → ∀ other : Screen width height,
            screen.toText (String.singleton on) (String.singleton off) =
                other.toText (String.singleton on) (String.singleton off) ↔
              screen.cells = other.cells) := by
  refine ⟨length_dump screen, ?_, getPixel_add_mul wide high screen, ?_⟩
  · intro x y column row
    exact ⟨_, getPixel_eq wide high screen x y, getElem?_dump wide high screen column row⟩
  · intro on off plain plain'
    refine ⟨?_, fun apart other => toText_inj wide high plain plain' apart⟩
    obtain ⟨text, written, lines⟩ := splitOn_toText wide high screen plain plain'
    refine ⟨text, written, by rw [lines, List.length_map, List.length_range], fun y row => ?_⟩
    refine ⟨String.ofList (screen.line on off y), ?_, ?_, fun x column => ?_⟩
    · rw [lines, List.getElem?_map, List.getElem?_range (by omega)]
      rfl
    · rw [String.length_ofList, Screen.line, List.length_map, length_row wide screen row]
    · refine ⟨_, getPixel_eq wide high screen x y, ?_⟩
      rw [String.toList_ofList, Screen.line, List.getElem?_map,
        getElem?_row wide high screen column row]
      rfl

/-- A dot in the last row of a screen of two columns and three rows. -/
theorem views_of_screen_of_dot :
    ∃ screen, (blank 2 3).draw 3 2 [0x80] = (screen, .ok false) ∧
      screen.dump[5]? = some 1 ∧ screen.getPixel (-1) (-1) = screen.getPixel 1 2 ∧
      ∃ text line, screen.toText (String.singleton '#') (String.singleton '.') = .ok text ∧
        (text.splitOn "\n")[2]? = some line ∧ line.toList[0]? = some '.' ∧
        line.toList[1]? = some '#' := by
  let screen : Screen 2 3 :=
    { cells := #v[false, false, false, false, false, true], mark := .changed }
  have drawn : (blank 2 3).draw 3 2 [0x80] = (screen, .ok false) := rfl
  have dark : screen.getPixel 0 2 = .ok false := rfl
  have bright : screen.getPixel 1 2 = .ok true := rfl
  obtain ⟨-, picture, repeats, texts⟩ :=
    views_of_screen (by decide : (0 : Int) < 2) (by decide : (0 : Int) < 3) screen
  obtain ⟨⟨text, written, -, rows⟩, -⟩ := texts '#' '.' (by decide) (by decide)
  obtain ⟨line, found, -, columns⟩ := rows 2 (by decide)
  obtain ⟨lit, pixel, byte⟩ := picture 1 2 (by decide) (by decide)
  obtain ⟨first, left, character⟩ := columns 0 (by decide)
  obtain ⟨second, right, character'⟩ := columns 1 (by decide)
  obtain rfl := Except.ok.inj (pixel.symm.trans bright)
  obtain rfl := Except.ok.inj (left.symm.trans dark)
  obtain rfl := Except.ok.inj (right.symm.trans bright)
  have again : screen.getPixel (-1) (-1) = screen.getPixel 1 2 := by
    simpa only [Int.reduceMul, Int.reduceAdd, Int.reduceNeg] using repeats 1 2 (-1) (-1)
  exact ⟨screen, drawn, byte, again, text, line, written, found, character, character'⟩

end Chip8.Screen
