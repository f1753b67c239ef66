import Chip8.Proofs.Drawing

/-!
Several sprites on one screen.

Drawing switches cells over, and only the number of times counts: whether it is even or odd. So
sprites can be drawn in any order, and a sprite that is drawn twice at the same place leaves no
trace, whatever is drawn in between.

* `drawAll` — sprites drawn one after the other, with the answer to each.
* `drawAll_eq` — a cell is switched over as often as the sprites meet it, all of them together.
* `cells_of_meetings` — sprites that meet every cell equally often, up to even numbers, leave the
  same picture.
* `collided_of_again` — one of two equal drawings answers a collision if there is a bit to draw.
* `cells_of_drawAll` — drawings in another order, and without two that are equal.
-/

namespace Chip8.Screen

variable {width height : Int}

/-- A sprite, and the place of its top left corner. -/
structure Stamp where
  x : Int
  y : Int
  sprite : List UInt8
  deriving DecidableEq, Repr

/-- Draws sprites one after the other, up to the first that fails, with the answer to each. -/
def drawAll (screen : Screen width height) :
    List Stamp → Screen width height × Except Fault (List Bool)
  | [] => (screen, .ok [])
  | stamp :: rest =>
      match screen.draw stamp.x stamp.y stamp.sprite with
      | (left, .error fault) => (left, .error fault)
      | (next, .ok collided) =>
          let (last, answers) := next.drawAll rest
          (last, answers.map (collided :: ·))

section Torus

variable (wide : 0 < width) (high : 0 < height)

/-- The cells that drawing some sprites meets, in the order of drawing. -/
def stampCells (stamps : List Stamp) : List (Fin (width * height).toNat) :=
  stamps.flatMap fun stamp => spriteCells wide high stamp.x stamp.y stamp.sprite

/-! ### Pictures -/

/-- Two counts are odd together if one of them is. -/
theorem odd_xor_odd (first second : Nat) :
    (decide (first % 2 = 1) ^^ decide (second % 2 = 1)) = decide ((first + second) % 2 = 1) := by
  rcases Nat.mod_two_eq_zero_or_one first with even | odd
  · simp [Nat.add_mod, even]
  · rcases Nat.mod_two_eq_zero_or_one second with even' | odd'
    · simp [Nat.add_mod, odd, even']
    · simp [Nat.add_mod, odd, odd']

/-- Any sprites can be drawn. A cell is then switched over if they meet it an odd number of times,
all of them together. -/
theorem drawAll_eq (screen : Screen width height) (stamps : List Stamp) :
    ∃ last answers, screen.drawAll stamps = (last, .ok answers) ∧
      ∀ cell, last.cells.get cell =
        (screen.cells.get cell ^^ decide ((stampCells wide high stamps).count cell % 2 = 1)) := by
  induction stamps generalizing screen with
  | nil =>
      refine ⟨screen, [], rfl, fun cell => ?_⟩
      simp [stampCells]
  | cons stamp rest ih =>
      have drawn := draw_eq wide high screen stamp.x stamp.y stamp.sprite
      generalize meets : spriteCells wide high stamp.x stamp.y stamp.sprite = cells at drawn
      obtain ⟨last, answers, others, left⟩ :=
        ih { cells := (cells.foldl toggle (screen.cells, false)).1, mark := .changed }
      refine ⟨last, (cells.foldl toggle (screen.cells, false)).2 :: answers, ?_, fun cell => ?_⟩
      · simp only [drawAll, drawn, others]
        rfl
      · have both : (stampCells wide high (stamp :: rest)).count cell =
            cells.count cell + (stampCells wide high rest).count cell := by
          rw [stampCells, List.flatMap_cons, List.count_append, meets]
          rfl
        rw [left cell, get_foldl_toggle, both, Bool.xor_assoc, odd_xor_odd]

/-- Sprites that meet every cell equally often leave the same picture, and even numbers of meetings
do not count. -/
theorem cells_of_meetings {screen last : Screen width height} {stamps others : List Stamp}
    {answers : List Bool} (drawn : screen.drawAll stamps = (last, .ok answers))
    (meetings : ∀ cell, (stampCells wide high others).count cell % 2 =
      (stampCells wide high stamps).count cell % 2) :
    ∃ next replies, screen.drawAll others = (next, .ok replies) ∧ next.cells = last.cells := by
  obtain ⟨_, _, also, pixels⟩ := drawAll_eq wide high screen stamps
  obtain ⟨next, replies, drawn', pixels'⟩ := drawAll_eq wide high screen others
  rw [drawn] at also
  cases also
  refine ⟨next, replies, drawn', Vector.ext fun place inside => ?_⟩
  have here := pixels ⟨place, inside⟩
  have there := pixels' ⟨place, inside⟩
  rw [meetings] at there
  exact there.trans here.symm

/-! ### Collisions -/

/-- A byte has a set bit unless it is zero. -/
theorem setColumns_eq_nil_iff {byte : UInt8} : setColumns byte = [] ↔ byte = 0 := by
  constructor
  · intro columnless
    refine UInt8.toNat_inj.mp (Nat.eq_of_testBit_eq fun bit => ?_)
    rw [UInt8.toNat_zero, Nat.zero_testBit]
    by_cases low : bit < 8
    · have unset := List.filter_eq_nil_iff.mp columnless (7 - bit) (List.mem_range.mpr (by omega))
      have column : 7 - (7 - bit) = bit := by omega
      rw [column] at unset
      exact Bool.eq_false_iff.mpr unset
    · refine Nat.testBit_lt_two_pow (Nat.lt_of_lt_of_le byte.toNat_lt ?_)
      exact Nat.pow_le_pow_right (by decide) (by omega)
  · rintro rfl
    rfl

/-- Drawing meets a cell if there is a bit to draw. -/
theorem exists_mem_spriteCells_iff (x y : Int) (sprite : List UInt8) :
    (∃ cell, cell ∈ spriteCells wide high x y sprite) ↔ ∃ byte ∈ sprite, byte ≠ 0 := by
  simp only [spriteCells, rowCells, List.mem_flatMap, List.mem_map, Prod.exists]
  constructor
  · rintro ⟨_, byte, line, found, column, set, -⟩
    refine ⟨byte, List.fst_mem_of_mem_zipIdx found, ?_⟩
    rintro rfl
    cases set
  · rintro ⟨byte, member, set⟩
    obtain ⟨column, inside⟩ := List.exists_mem_of_ne_nil _ (mt setColumns_eq_nil_iff.mp set)
    obtain ⟨line, within, rfl⟩ := List.getElem_of_mem member
    have found : (sprite[line], line) ∈ sprite.zipIdx := by
      rw [List.mem_zipIdx_iff_getElem?]
      exact List.getElem?_eq_getElem within
    exact ⟨_, sprite[line], line, found, column, inside, rfl⟩

include wide high

/-- Drawn twice at the same place, a sprite that fits into the screen meets a lit cell once for each
of its bits: where the screen was dark for the first drawing it is lit for the second. -/
theorem collided_of_again (screen : Screen width height) (stamp : Stamp) (broad : 8 ≤ width)
    (tall : stamp.sprite.length ≤ height) :
    ∃ last first second, screen.drawAll [stamp, stamp] = (last, .ok [first, second]) ∧
      (first = true ∨ second = true ↔ ∃ byte ∈ stamp.sprite, byte ≠ 0) := by
  obtain ⟨x, y, sprite⟩ := stamp
  have distinct : (spriteCells wide high x y sprite).Nodup :=
    nodup_spriteCells wide high broad tall
  have shows := exists_mem_spriteCells_iff wide high x y sprite
  have drawn (screen : Screen width height) := draw_eq wide high screen x y sprite
  generalize spriteCells wide high x y sprite = cells at distinct shows drawn
  have first := collided_foldl_toggle_of_nodup cells (screen.cells, false) distinct
  have pixels := get_foldl_toggle_of_nodup cells (screen.cells, false) distinct
  have second := collided_foldl_toggle_of_nodup cells
    ((cells.foldl toggle (screen.cells, false)).1, false) distinct
  refine ⟨_, _, _, by simp only [drawAll, drawn]; rfl, ?_⟩
  rw [first, second, ← shows]
  constructor
  · rintro ((off | ⟨cell, member, -⟩) | (off | ⟨cell, member, -⟩))
    · cases off
    · exact ⟨cell, member⟩
    · cases off
    · exact ⟨cell, member⟩
  · rintro ⟨cell, member⟩
    cases lit : screen.cells.get cell with
    | true => exact .inl (.inr ⟨cell, member, lit⟩)
    | false =>
        refine .inr (.inr ⟨cell, member, ?_⟩)
        rw [pixels, lit]
        simpa using member

/-! ### Orders and pairs -/

/-- The order of drawing does not matter to the picture, and pairs cancel.

Any list of sprites can be drawn, at any places. Drawn in another order they leave the same picture,
and so they do without two of them that are the same sprite at the same place, wherever these stand
in the list. If a sprite that fits into the screen is drawn twice in a row at a place, a collision
is answered at least once, unless the sprite has no bit to draw. -/
theorem cells_of_drawAll (screen : Screen width height) (stamps : List Stamp) :
    ∃ last answers, screen.drawAll stamps = (last, .ok answers) ∧
      (∀ others : List Stamp, others.Perm stamps →
        ∃ next replies, screen.drawAll others = (next, .ok replies) ∧ next.cells = last.cells) ∧
      (∀ (stamp : Stamp) (before between behind : List Stamp),
        stamps = before ++ stamp :: between ++ stamp :: behind →
          ∃ next replies, screen.drawAll (before ++ between ++ behind) = (next, .ok replies) ∧
            next.cells = last.cells) ∧
      ∀ stamp : Stamp, 8 ≤ width → stamp.sprite.length ≤ height →
        ∃ twice first second, screen.drawAll [stamp, stamp] = (twice, .ok [first, second]) ∧
          (first = true ∨ second = true ↔ ∃ byte ∈ stamp.sprite, byte ≠ 0) := by
  obtain ⟨last, answers, drawn, -⟩ := drawAll_eq wide high screen stamps
  refine ⟨last, answers, drawn, ?_, ?_, fun stamp => collided_of_again wide high screen stamp⟩
  · intro others same
    refine cells_of_meetings wide high drawn fun cell => ?_
    have meets := same.flatMap_right fun stamp : Stamp =>
      spriteCells wide high stamp.x stamp.y stamp.sprite
    rw [stampCells, stampCells, meets.count_eq]
  · rintro stamp before between behind rfl
    refine cells_of_meetings wide high drawn fun cell => ?_
    simp only [stampCells, List.flatMap_append, List.flatMap_cons, List.count_append]
    omega

end Torus

/-- Two lines of a sprite over the lower left corner, then a bar across the screen, then the two
lines again. -/
theorem cells_of_drawAll_over_a_corner :
    let corner : Stamp := { x := -3, y := 2, sprite := [0xF0, 0x90] }
    let bar : Stamp := { x := 0, y := 2, sprite := [0xFF] }
    ∃ last answers, (blank 9 3).drawAll [corner, bar, corner] = (last, .ok answers) ∧
      (∃ next replies, (blank 9 3).drawAll [bar, corner, corner] = (next, .ok replies) ∧
        next.cells = last.cells) ∧
      (∃ next replies, (blank 9 3).drawAll [bar] = (next, .ok replies) ∧
        next.cells = last.cells) ∧
      ∃ twice first second, (blank 9 3).drawAll [corner, corner] = (twice, .ok [first, second]) ∧
        (first = true ∨ second = true) := by
  intro corner bar
  obtain ⟨last, answers, drawn, orders, pairs, collides⟩ :=
    cells_of_drawAll (by decide) (by decide) (blank 9 3) [corner, bar, corner]
  obtain ⟨twice, first, second, again, collided⟩ := collides corner (by decide) (by decide)
  have set : ∃ byte ∈ corner.sprite, byte ≠ 0 := ⟨0xF0, List.mem_cons_self, by decide⟩
  refine ⟨last, answers, drawn, orders _ (List.Perm.swap _ _ _), ?_, twice, first, second, again,
    collided.mpr set⟩
  exact pairs corner [] [bar] [] rfl

end Chip8.Screen
