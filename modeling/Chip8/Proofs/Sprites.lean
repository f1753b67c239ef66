import Chip8.Proofs.Drawing
import Mathlib.Data.List.ProdSigma

/-!
The picture that a sprite leaves.

On a narrow or a low screen a sprite closes up over itself, and a pixel is then switched over once
for each set bit that lands on it.

* `landings` — how many set bits of a sprite land on a pixel.
* `count_spriteCells` — drawing meets the cell of a pixel that many times.
* `picture_of_draw` — every pixel, the answer about collisions and the mark after drawing, for
  sprites of any length at any place.
-/

namespace Chip8.Screen

variable {width height : Int}

/-- How many set bits of a sprite land on a pixel. Column 0 is that of the most significant bit. -/
def landings (width height x y : Int) (sprite : List UInt8) (px py : Int) : Nat :=
  ((List.range sprite.length).product (List.range 8)).countP fun (line, column) =>
    (sprite[line]?.getD 0).toNat.testBit (7 - column) &&
      ((x + column).fmod width = px.fmod width && (y + line).fmod height = py.fmod height)

section Torus

variable (wide : 0 < width) (high : 0 < height)

/-- The cells under a sprite, line by line. -/
theorem spriteCells_eq (x y : Int) (sprite : List UInt8) :
    spriteCells wide high x y sprite = (List.range sprite.length).flatMap fun (line : Nat) =>
      rowCells wide high x (y + line) (sprite[line]?.getD 0) := by
  have lines : sprite.zipIdx =
      (List.range sprite.length).map fun line => (sprite[line]?.getD 0, line) := by
    refine List.ext_getElem (by simp) fun line inside _ => ?_
    rw [List.length_zipIdx] at inside
    simp [inside]
  rw [spriteCells, lines, List.flatMap_map]

theorem count_rowCells (x y px py : Int) (byte : UInt8) :
    (rowCells wide high x y byte).count (torusCell wide high px py) =
      (List.range 8).countP fun (column : Nat) => byte.toNat.testBit (7 - column) &&
        ((x + column).fmod width = px.fmod width && y.fmod height = py.fmod height) := by
  rw [rowCells, setColumns, List.count, List.countP_map, List.countP_filter]
  refine List.countP_congr fun column _ => ?_
  simp only [Function.comp_apply, Bool.and_eq_true, beq_iff_eq, decide_eq_true_eq,
    torusCell_eq_iff]
  exact and_comm

/-- Drawing meets the cell of a pixel once for each set bit that lands there. -/
theorem count_spriteCells (x y px py : Int) (sprite : List UInt8) :
    (spriteCells wide high x y sprite).count (torusCell wide high px py) =
      landings width height x y sprite px py := by
  rw [spriteCells_eq, landings, List.product, List.count, List.countP_flatMap, List.countP_flatMap]
  refine congrArg List.sum (List.map_congr_left fun line _ => ?_)
  simp only [Function.comp_apply, List.countP_map]
  exact count_rowCells wide high x (y + line) px py _

include high

/-- A sprite that fits into the screen lands on no pixel twice. -/
theorem landings_le_one (x y px py : Int) {sprite : List UInt8} (broad : 8 ≤ width)
    (tall : sprite.length ≤ height) : landings width height x y sprite px py ≤ 1 := by
  have wide : 0 < width := by omega
  have distinct := nodup_spriteCells wide high (x := x) (y := y) broad tall
  rw [← count_spriteCells wide high]
  exact List.nodup_iff_count_le_one.mp distinct _

/-- A cell is switched off if one that was on is met, or any is met more than once. -/
theorem collided_spriteCells (screen : Screen width height) (x y : Int) (sprite : List UInt8) :
    ((spriteCells wide high x y sprite).foldl toggle (screen.cells, false)).2 = true ↔
      ∃ px py, 0 < landings width height x y sprite px py ∧ screen.getPixel px py = .ok true ∨
        2 ≤ landings width height x y sprite px py := by
  rw [collided_foldl_toggle]
  constructor
  · rintro (off | ⟨cell, member, met⟩)
    · cases off
    obtain ⟨px, py, -, -, rfl⟩ := exists_torusCell wide high cell
    have landed := List.count_pos_iff.mpr member
    rw [count_spriteCells] at landed met
    refine ⟨px, py, met.imp_left fun lit => ⟨landed, ?_⟩⟩
    rw [getPixel_eq wide high]
    exact congrArg Except.ok lit
  · rintro ⟨px, py, met⟩
    rw [getPixel_eq wide high, ← count_spriteCells wide high] at met
    have landed : 0 < (spriteCells wide high x y sprite).count (torusCell wide high px py) := by
      omega
    exact .inr ⟨_, List.count_pos_iff.mp landed,
      met.imp_left fun lit => Except.ok.inj lit.2⟩

include wide

/-- Drawing succeeds at any place and with any number of lines. A pixel is switched over if an odd
number of set bits lands on it. A collision is answered if a set bit lands on a pixel that was lit,
or more than one lands on the same; the latter cannot be where the sprite fits into the screen. The
picture is marked as changed. -/
theorem picture_of_draw (screen : Screen width height) (x y : Int) (sprite : List UInt8) :
    ∃ next collided, screen.draw x y sprite = (next, .ok collided) ∧
      (∀ px py, ∃ lit, screen.getPixel px py = .ok lit ∧ next.getPixel px py =
        .ok (lit ^^ decide (landings width height x y sprite px py % 2 = 1))) ∧
      (collided = true ↔
        ∃ px py, 0 < landings width height x y sprite px py ∧ screen.getPixel px py = .ok true ∨
          2 ≤ landings width height x y sprite px py) ∧
      (8 ≤ width → sprite.length ≤ height →
        (collided = true ↔
          ∃ px py, 0 < landings width height x y sprite px py ∧
            screen.getPixel px py = .ok true)) ∧
      next.mark = .changed := by
  have collided := collided_spriteCells wide high screen x y sprite
  refine ⟨_, _, draw_eq wide high screen x y sprite, fun px py => ?_, collided,
    fun broad tall => ?_, rfl⟩
  · refine ⟨_, getPixel_eq wide high screen px py, ?_⟩
    rw [getPixel_eq wide high, get_foldl_toggle, count_spriteCells]
  · refine collided.trans (exists_congr fun px => exists_congr fun py => or_iff_left ?_)
    have once := landings_le_one high x y px py broad tall
    omega

end Torus

/-- A sprite of three lines around both edges of a screen of three columns and two rows, where three
of its bits land on one pixel and four on another. -/
theorem picture_of_draw_over_itself :
    ∃ next, (blank 3 2).draw (-1) (-1) [0xFF, 0x80, 0x80] = (next, .ok true) ∧
      next.getPixel 0 1 = .ok true ∧ next.getPixel 2 1 = .ok false ∧ next.mark = .changed := by
  obtain ⟨next, collided, drawn, pixels, answer, -, mark⟩ :=
    picture_of_draw (by decide) (by decide) (blank 3 2) (-1) (-1) [0xFF, 0x80, 0x80]
  have three : landings 3 2 (-1) (-1) [0xFF, 0x80, 0x80] 0 1 = 3 := by decide
  have four : landings 3 2 (-1) (-1) [0xFF, 0x80, 0x80] 2 1 = 4 := by decide
  obtain ⟨left, leftDark, leftDrawn⟩ := pixels 0 1
  obtain ⟨right, rightDark, rightDrawn⟩ := pixels 2 1
  obtain rfl : left = false := Except.ok.inj (leftDark.symm.trans (by decide))
  obtain rfl : right = false := Except.ok.inj (rightDark.symm.trans (by decide))
  obtain rfl : collided = true := answer.mpr ⟨0, 1, .inr (by rw [three]; decide)⟩
  rw [three] at leftDrawn
  rw [four] at rightDrawn
  exact ⟨next, drawn, leftDrawn, rightDrawn, mark⟩

end Chip8.Screen
