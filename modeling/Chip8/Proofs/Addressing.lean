import Chip8.Proofs.Overlays

/-!
Which cells are drawn on, on screens of any dimensions: both positive, both negative or one of them
zero.

* `create_eq_ok_iff`, `create_eq_negativeArea_iff`, `create_eq_beyondWords_iff` — which screens can
  be made.
* `exists_cellOf` — with two dimensions there is a cell under any coordinates, and they meet in it
  up to the dimensions (`cellOf_eq_iff`).
* `draw_of_undrawable`, `exists_draw` — drawing fails for want of a dimension, with nothing switched
  over, and for no other reason.
* `faults_of_draw` — when screens cannot be made, when drawing fails, and what it leaves then.
* `create_of_area_below_words` — an area that is negative and too large to be refused for that.
-/

namespace Chip8.Screen

variable {width height : Int}

/-! ### Making a screen -/

theorem create_eq_beyondWords_iff :
    create width height = .error .beyondWords ↔ ¬ Capacity.IsWord (width * height) := by
  unfold create
  split_ifs <;> simp [*]

theorem create_eq_negativeArea_iff :
    create width height = .error .negativeArea ↔
      Capacity.IsWord (width * height) ∧ width * height < 0 := by
  unfold create
  split_ifs <;> simp_all

theorem create_eq_ok_iff :
    create width height = .ok (blank width height) ↔
      Capacity.IsWord (width * height) ∧ 0 ≤ width * height := by
  unfold create
  split_ifs <;> simp_all

/-! ### Coordinates -/

/-- Reductions are the same up to multiples of the dimension. -/
theorem fmod_eq_iff_dvd {coordinate other dimension : Int} :
    coordinate.fmod dimension = other.fmod dimension ↔ dimension ∣ coordinate - other := by
  constructor
  · intro same
    have first := Int.mul_fdiv_add_fmod coordinate dimension
    have second := Int.mul_fdiv_add_fmod other dimension
    refine ⟨coordinate.fdiv dimension - other.fdiv dimension, ?_⟩
    rw [Int.mul_sub]
    omega
  · rintro ⟨times, apart⟩
    obtain rfl : coordinate = other + dimension * times := by omega
    exact Int.add_mul_fmod_self_left other dimension times

section Dimensions

variable (wide : width ≠ 0) (high : height ≠ 0) (area : 0 ≤ width * height)

/-- The place of two reduced coordinates in the row by row order. -/
def placeOf (width height x y : Int) : Int := y.fmod height * width + x.fmod width

include wide high area

/-- Places lie in a stretch that is as long as there are cells. With positive dimensions it starts
with the first cell, and with negative ones, which reduce to what is not positive, behind the
width. -/
theorem placeOf_bounds (x y : Int) :
    0 < width ∧ 0 ≤ placeOf width height x y ∧ placeOf width height x y < width * height ∨
      width < 0 ∧ width < placeOf width height x y ∧
        placeOf width height x y ≤ width * height + width ∧ 0 ≤ width * height + width := by
  have column := bounds_of_reduce (if_neg wide : reduce x width = .ok (x.fmod width))
  have row := bounds_of_reduce (if_neg high : reduce y height = .ok (y.fmod height))
  unfold placeOf
  rcases Int.lt_or_gt_of_ne wide with negative | positive
  · have below : height < 0 := by
      by_contra other
      have opposite := Int.mul_neg_of_neg_of_pos negative (by omega : 0 < height)
      omega
    have columns := column.2 negative
    have rows := row.2 below
    have low : 0 ≤ y.fmod height * width := Int.mul_nonneg_of_nonpos_of_nonpos rows.2 negative.le
    have most : (y.fmod height - (height + 1)) * width ≤ 0 :=
      Int.mul_nonpos_of_nonneg_of_nonpos (by omega) negative.le
    have room : 0 ≤ width * (height + 1) :=
      Int.mul_nonneg_of_nonpos_of_nonpos negative.le (by omega)
    rw [Int.sub_mul, Int.add_mul, Int.one_mul, Int.mul_comm height] at most
    rw [Int.mul_add, Int.mul_one] at room
    omega
  · have above : 0 < height := by
      by_contra other
      have opposite := Int.mul_neg_of_pos_of_neg positive (by omega : height < 0)
      omega
    have columns := column.1 positive
    have rows := row.1 above
    exact .inl ⟨positive, place_bounds rows.1 rows.2 columns.1 columns.2⟩

/-- There is a cell under any two coordinates. It counts back from the last one if its place is
negative. -/
theorem exists_cellOf (x y : Int) :
    ∃ cell, cellOf width height x y = .ok cell ∧
      (cell.val : Int) =
        if placeOf width height x y < 0 then placeOf width height x y + width * height
        else placeOf width height x y := by
  have bounds := placeOf_bounds wide high area x y
  have found : cellOf width height x y = cellAt width height (placeOf width height x y) := by
    unfold cellOf reduce
    rw [if_neg wide, if_neg high]
    rfl
  rw [found]
  generalize placeOf width height x y = place at bounds
  have inside : 0 ≤ (if place < 0 then place + width * height else place) ∧
      (if place < 0 then place + width * height else place) < width * height := by
    split <;> omega
  exact ⟨_, dif_pos inside, Int.toNat_of_nonneg inside.1⟩

/-- Coordinates meet in a cell if and only if they agree up to multiples of the dimensions. -/
theorem cellOf_eq_iff {x y x' y' : Int} :
    cellOf width height x y = cellOf width height x' y' ↔ width ∣ x - x' ∧ height ∣ y - y' := by
  obtain ⟨cell, found, value⟩ := exists_cellOf wide high area x y
  obtain ⟨cell', found', value'⟩ := exists_cellOf wide high area x' y'
  have bounds := placeOf_bounds wide high area x y
  have bounds' := placeOf_bounds wide high area x' y'
  have places : cell = cell' ↔ placeOf width height x y = placeOf width height x' y' := by
    rw [Fin.ext_iff, ← Int.natCast_inj, value, value']
    split <;> split <;> omega
  rw [found, found', Except.ok.injEq, places, ← fmod_eq_iff_dvd, ← fmod_eq_iff_dvd]
  have column (x : Int) := bounds_of_reduce (if_neg wide : reduce x width = .ok (x.fmod width))
  unfold placeOf
  rcases Int.lt_or_gt_of_ne wide with negative | positive
  · -- What is not positive is reflected, so that rows of positive length are told apart.
    have first := (column x).2 negative
    have second := (column x').2 negative
    have reflected := @place_inj (-width) (y.fmod height) (-x.fmod width) (y'.fmod height)
      (-x'.fmod width) (by omega) (by omega) (by omega) (by omega)
    rw [Int.mul_neg, Int.mul_neg] at reflected
    omega
  · have first := (column x).1 positive
    have second := (column x').1 positive
    exact place_inj first.1 first.2 second.1 second.2

end Dimensions

/-! ### What drawing meets -/

/-- Without height, a row of a sprite meets the lack of it, whether it has a bit or not. -/
theorem rowTargets_of_flat (flat : height = 0) (x y : Int) (byte : UInt8) :
    rowTargets width height x y byte = [.error .missingDimension] := by
  have missing : reduce y height = .error .missingDimension := if_pos flat
  rw [rowTargets, missing]

/-- With height, a row meets what is under its set bits. -/
theorem rowTargets_of_height (high : height ≠ 0) (x y : Int) (byte : UInt8) :
    rowTargets width height x y byte =
      (setColumns byte).map fun (column : Nat) => cellOf width height (x + column) y := by
  have row : reduce y height = .ok (y.fmod height) := if_neg high
  rw [rowTargets, row]
  refine List.map_congr_left fun column _ => ?_
  rw [cellOf, row]
  rfl

theorem mem_targets_iff {x y : Int} {sprite : List UInt8}
    {target : Except Fault (Fin (width * height).toNat)} :
    target ∈ targets width height x y sprite ↔
      ∃ byte line, (byte, line) ∈ sprite.zipIdx ∧
        target ∈ rowTargets width height x (y + (line : Nat)) byte := by
  rw [targets, List.mem_flatMap]
  exact Prod.exists

/-! ### Missing dimensions -/

/-- A sprite for which a coordinate is reduced modulo a dimension of zero: one with any row if there
is no height, and else one with any bit if there is no width. -/
def Undrawable (width height : Int) (sprite : List UInt8) : Prop :=
  height = 0 ∧ sprite ≠ [] ∨ height ≠ 0 ∧ width = 0 ∧ ∃ byte ∈ sprite, byte ≠ 0

theorem targets_eq_nil_iff {x y : Int} {sprite : List UInt8} :
    targets width height x y sprite = [] ↔
      if height = 0 then sprite = [] else ∀ byte ∈ sprite, byte = 0 := by
  have rows : (∀ byte ∈ sprite, byte = 0) ↔ ∀ row ∈ sprite.zipIdx, row.1 = 0 := by
    rw [← List.forall_mem_map (f := Prod.fst) (P := (· = 0)), List.zipIdx_map_fst]
  rw [targets, List.flatMap_eq_nil_iff]
  split
  next flat =>
    simp only [rowTargets_of_flat flat, List.cons_ne_nil, imp_false]
    rw [← List.eq_nil_iff_forall_not_mem, List.zipIdx_eq_nil_iff]
  next high =>
    simp only [rowTargets_of_height high, List.map_eq_nil_iff, setColumns_eq_nil_iff, rows]

/-- Without a dimension nothing is met but the lack of it. -/
theorem eq_error_of_mem_targets {x y : Int} {sprite : List UInt8}
    (flat : height = 0 ∨ width = 0) {target : Except Fault (Fin (width * height).toNat)}
    (met : target ∈ targets width height x y sprite) : target = .error .missingDimension := by
  obtain ⟨byte, line, -, met⟩ := mem_targets_iff.mp met
  by_cases high : height = 0
  · rw [rowTargets_of_flat high] at met
    exact List.mem_singleton.mp met
  · rw [rowTargets_of_height high] at met
    obtain ⟨column, -, rfl⟩ := List.mem_map.mp met
    unfold cellOf reduce
    rw [if_neg high, if_pos (flat.resolve_left high)]
    rfl

theorem exists_of_mem_targets (wide : width ≠ 0) (high : height ≠ 0) (area : 0 ≤ width * height)
    {x y : Int} {sprite : List UInt8} {target : Except Fault (Fin (width * height).toNat)}
    (met : target ∈ targets width height x y sprite) : ∃ cell, target = .ok cell := by
  obtain ⟨byte, line, -, met⟩ := mem_targets_iff.mp met
  rw [rowTargets_of_height high] at met
  obtain ⟨column, -, rfl⟩ := List.mem_map.mp met
  obtain ⟨cell, found, -⟩ := exists_cellOf wide high area (x + column) (y + line)
  exact ⟨cell, found⟩

theorem progress_of_errors {met : List (Except Fault (Fin (width * height).toNat))} {fault : Fault}
    (failing : ∀ target ∈ met, target = .error fault) (any : met ≠ [])
    (drawing : Drawing width height) : progress drawing met = (drawing, some fault) := by
  cases met with
  | nil => exact absurd rfl any
  | cons target rest =>
      rw [failing target List.mem_cons_self]
      rfl

theorem progress_of_cells {met : List (Except Fault (Fin (width * height).toNat))}
    (there : ∀ target ∈ met, ∃ cell, target = .ok cell) (drawing : Drawing width height) :
    ∃ drawn, progress drawing met = (drawn, none) := by
  induction met generalizing drawing with
  | nil => exact ⟨drawing, rfl⟩
  | cons target rest ih =>
      obtain ⟨⟨cell, rfl⟩, others⟩ := List.forall_mem_cons.mp there
      exact ih others (toggle drawing cell)

/-- Drawing fails before anything has been switched over, if it fails. -/
theorem draw_of_undrawable {sprite : List UInt8} (undrawable : Undrawable width height sprite)
    (screen : Screen width height) (x y : Int) :
    screen.draw x y sprite = (screen, .error .missingDimension) := by
  have flat : height = 0 ∨ width = 0 := undrawable.imp And.left fun narrow => narrow.2.1
  have met : targets width height x y sprite ≠ [] := by
    rw [Ne, targets_eq_nil_iff]
    rcases undrawable with ⟨flat, rows⟩ | ⟨high, -, byte, member, set⟩
    · rwa [if_pos flat]
    · rw [if_neg high]
      exact fun unset => set (unset byte member)
  rw [draw, progress_of_errors (fun _ => eq_error_of_mem_targets flat) met]

theorem exists_draw (area : 0 ≤ width * height) {sprite : List UInt8}
    (drawable : ¬ Undrawable width height sprite) (screen : Screen width height) (x y : Int) :
    ∃ next collided, screen.draw x y sprite = (next, .ok collided) := by
  have there : ∀ target ∈ targets width height x y sprite, ∃ cell, target = .ok cell := by
    by_cases flat : height = 0 ∨ width = 0
    · -- The sprite is one for which no coordinate is reduced.
      have unmet : targets width height x y sprite = [] := by
        rw [targets_eq_nil_iff]
        split
        next low => exact not_not.mp fun rows => drawable (.inl ⟨low, rows⟩)
        next high =>
          intro byte member
          exact not_not.mp fun set =>
            drawable (.inr ⟨high, flat.resolve_left high, byte, member, set⟩)
      rw [unmet]
      exact List.forall_mem_nil _
    · obtain ⟨high, wide⟩ := not_or.mp flat
      exact fun _ => exists_of_mem_targets wide high area
  obtain ⟨drawn, finished⟩ := progress_of_cells there (screen.cells, false)
  rw [draw, finished]
  exact ⟨_, _, rfl⟩

theorem draw_eq_error_iff (area : 0 ≤ width * height) (screen : Screen width height) (x y : Int)
    (sprite : List UInt8) {fault : Fault} :
    (screen.draw x y sprite).2 = .error fault ↔
      fault = .missingDimension ∧ Undrawable width height sprite := by
  by_cases undrawable : Undrawable width height sprite
  · rw [draw_of_undrawable undrawable]
    simp [undrawable, eq_comm]
  · obtain ⟨next, collided, drawn⟩ := exists_draw area undrawable screen x y
    rw [drawn]
    simp [undrawable]

/-- Which screens are made, and what drawing does on them.

A screen is made if its area is a word of 64 bits and not negative. An area that is no word is
refused as such, and any other negative one for being negative. On every screen of an area that is
not negative, whatever is on it, drawing fails only for want of a dimension: if a sprite with any
row is drawn without height, or one with any bit without width. Then it leaves the screen with its
cells and its mark as they were. With two dimensions, of either sign, there is a cell under any
coordinates, the one that is read there, and others meet in it just when they differ by multiples of
the dimensions. -/
theorem faults_of_draw (width height : Int) :
    (create width height = .error .beyondWords ↔ ¬ Capacity.IsWord (width * height)) ∧
      (create width height = .error .negativeArea ↔
        Capacity.IsWord (width * height) ∧ width * height < 0) ∧
      (create width height = .ok (blank width height) ↔
        Capacity.IsWord (width * height) ∧ 0 ≤ width * height) ∧
      (0 ≤ width * height →
        ∀ (screen : Screen width height) (x y : Int) (sprite : List UInt8),
          (∀ fault, (screen.draw x y sprite).2 = .error fault ↔
            fault = .missingDimension ∧
              (height = 0 ∧ sprite ≠ [] ∨ height ≠ 0 ∧ width = 0 ∧ ∃ byte ∈ sprite, byte ≠ 0)) ∧
          ∀ fault, (screen.draw x y sprite).2 = .error fault →
            (screen.draw x y sprite).1 = screen) ∧
      (0 ≤ width * height → width ≠ 0 → height ≠ 0 → ∀ x y : Int,
        (∃ cell, cellOf width height x y = .ok cell ∧
            ∀ screen : Screen width height, screen.getPixel x y = .ok (screen.cells.get cell)) ∧
          ∀ x' y', cellOf width height x y = cellOf width height x' y' ↔
            width ∣ x - x' ∧ height ∣ y - y') := by
  refine ⟨create_eq_beyondWords_iff, create_eq_negativeArea_iff, create_eq_ok_iff,
    fun area screen x y sprite => ⟨?_, ?_⟩, ?_⟩
  · exact fun fault => draw_eq_error_iff area screen x y sprite
  · intro fault failed
    obtain ⟨-, undrawable⟩ := (draw_eq_error_iff area screen x y sprite).mp failed
    rw [draw_of_undrawable undrawable]
  · intro area wide high x y
    obtain ⟨cell, found, -⟩ := exists_cellOf wide high area x y
    refine ⟨⟨cell, found, fun screen => ?_⟩, fun x' y' => cellOf_eq_iff wide high area⟩
    rw [getPixel, found]
    rfl

/-- With two negative dimensions distant coordinates meet, and with no width the second line of a
sprite cannot be drawn. -/
theorem faults_of_draw_without_width :
    cellOf (-3) (-2) 7 (-100000000000000000000) = cellOf (-3) (-2) (-200) 0 ∧
      ((blank 0 4).draw 5 6 [0x00, 0x80]).2 = .error .missingDimension ∧
      ((blank 0 4).draw 5 6 [0x00, 0x80]).1 = blank 0 4 := by
  obtain ⟨-, -, -, -, cells⟩ := faults_of_draw (-3) (-2)
  obtain ⟨-, -, -, drawing, -⟩ := faults_of_draw 0 4
  obtain ⟨fails, left⟩ := drawing (by decide) (blank 0 4) 5 6 [0x00, 0x80]
  have failed := (fails .missingDimension).mpr (by decide)
  refine ⟨?_, failed, left .missingDimension failed⟩
  exact ((cells (by decide) (by decide) (by decide) _ _).2 _ _).mpr (by decide)

/-- An area that is negative can be too large a number to be refused for that. -/
theorem create_of_area_below_words :
    create (-0x8000000000000001) 1 = .error .beyondWords ∧
      ¬ (create (-0x8000000000000001) 1 = .error .negativeArea ↔
        -0x8000000000000001 * 1 < (0 : Int)) := by
  have refused : create (-0x8000000000000001) 1 = .error .beyondWords := rfl
  refine ⟨refused, fun claimed => ?_⟩
  rw [refused] at claimed
  exact nomatch claimed.mpr (by decide)

end Chip8.Screen
