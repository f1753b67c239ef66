import Chip8.Decimal

/-!
The shortest decimal of a double: of all decimals for which the double is the nearest one, those
on the coarsest grid of powers of ten, and among these the closest to the double. Of two that are
equally close it is the even one.

Grids are tried from the coarsest on. On each of them only the two neighbours of the double can
be the closest, so nothing else is looked at.

* What is found reads as the double (`contains_of_shortest?`).
* No coarser grid has such a decimal (`closest?_eq_none_of_shortest?`).
-/

namespace Chip8.Decimal

/-- The numbers around a positive double to which it is the nearest double. All three numbers are
to be multiplied with a power of two. -/
structure Surrounding where
  low : Nat
  value : Nat
  high : Nat
  exponent : Int
  /-- The ends belong to it. -/
  closed : Bool
  deriving DecidableEq, Repr

namespace Surrounding

/-- The numbers around a double, without its sign. The ends lie halfway to the next doubles, and
the next smaller one is closer than the next larger one where a power of two is between. -/
def ofBits (bits : UInt64) : Surrounding :=
  let fraction := bits.toNat % 0x10000000000000
  let power := bits.toNat / 0x10000000000000 % 0x800
  let mantissa := if power = 0 then fraction else 0x10000000000000 + fraction
  { low := 4 * mantissa - if fraction = 0 ∧ 1 < power then 1 else 2
    value := 4 * mantissa
    high := 4 * mantissa + 2
    exponent := (max 1 power : Nat) - 1077
    closed := mantissa % 2 = 0 }

/-- One step of the grid of a power of ten, as a multiple of a unit. -/
def step (around : Surrounding) (exponent : Int) : Nat :=
  Nat.pow 10 exponent.toNat * Nat.pow 2 (-around.exponent).toNat

/-- The scale of the surrounding, as a multiple of the same unit. -/
def scale (around : Surrounding) (exponent : Int) : Nat :=
  Nat.pow 2 around.exponent.toNat * Nat.pow 10 (-exponent).toNat

def Contains (around : Surrounding) (decimal : Decimal) : Prop :=
  let place := decimal.digits * around.step decimal.exponent
  let scale := around.scale decimal.exponent
  if around.closed then around.low * scale ≤ place ∧ place ≤ around.high * scale
  else around.low * scale < place ∧ place < around.high * scale

instance (around : Surrounding) (decimal : Decimal) : Decidable (around.Contains decimal) := by
  unfold Contains; infer_instance

/-- The decimal of a grid that is closest to the double, if it is contained. -/
def closest? (around : Surrounding) (exponent : Int) : Option Decimal :=
  let step := around.step exponent
  let place := around.value * around.scale exponent
  let below : Decimal := ⟨place / step, exponent⟩
  let above : Decimal := ⟨place / step + 1, exponent⟩
  let twice := 2 * (place % step)
  if twice < step ∨ (twice = step ∧ below.digits % 2 = 0) then
    [below, above].find? (around.Contains ·)
  else
    [above, below].find? (around.Contains ·)

theorem contains_of_closest? {around : Surrounding} {exponent : Int} {decimal : Decimal}
    (found : around.closest? exponent = some decimal) : around.Contains decimal := by
  simp only [closest?] at found
  split at found <;> simpa using List.find?_some found

theorem exponent_of_closest? {around : Surrounding} {exponent : Int} {decimal : Decimal}
    (found : around.closest? exponent = some decimal) : decimal.exponent = exponent := by
  simp only [closest?] at found
  split at found <;>
    rcases List.mem_cons.mp (List.mem_of_find?_eq_some found) with rfl | rest
  all_goals first
    | rfl
    | rw [List.mem_singleton.mp rest]

end Surrounding

/-- The power of ten of the coarsest grid. It is beyond all doubles. -/
def coarsest : Int := 309

/-- The number of grids. All doubles lie on the finest. -/
def gridCount : Nat := 1384

/-- The shortest decimal of a finite double other than zero, without its sign. -/
def shortest? (bits : UInt64) : Option Decimal :=
  let around := Surrounding.ofBits bits
  (List.range gridCount).findSome? fun (index : Nat) => around.closest? (coarsest - index)

/-- What is found reads as the double. -/
theorem contains_of_shortest? {bits : UInt64} {decimal : Decimal}
    (found : shortest? bits = some decimal) : (Surrounding.ofBits bits).Contains decimal := by
  obtain ⟨_, _, found⟩ := List.exists_of_findSome?_eq_some found
  exact Surrounding.contains_of_closest? found

/-- No coarser grid has a decimal that reads as the double and is closest to it. -/
theorem closest?_eq_none_of_shortest? {bits : UInt64} {decimal : Decimal} {exponent : Int}
    (found : shortest? bits = some decimal) (coarser : decimal.exponent < exponent)
    (tried : exponent ≤ coarsest) : (Surrounding.ofBits bits).closest? exponent = none := by
  obtain ⟨before, index, after, split, found, missing⟩ := List.findSome?_eq_some_iff.mp found
  have place := Surrounding.exponent_of_closest? found
  have sorted : (List.range gridCount).Pairwise (· < ·) := List.pairwise_lt_range
  rw [split, List.pairwise_append, List.pairwise_cons] at sorted
  have sooner : (coarsest - exponent).toNat < index := by omega
  have listed : index ∈ List.range gridCount := by simp [split]
  have member : (coarsest - exponent).toNat ∈ before ++ index :: after :=
    split ▸ List.mem_range.mpr (Nat.lt_trans sooner (List.mem_range.mp listed))
  have earlier : (coarsest - exponent).toNat ∈ before := by
    rcases List.mem_append.mp member with earlier | later
    · exact earlier
    · rcases List.mem_cons.mp later with same | later
      · omega
      · have := sorted.2.1.1 _ later
        omega
  have same : coarsest - ((coarsest - exponent).toNat : Int) = exponent := by omega
  simpa only [same] using missing _ earlier

end Chip8.Decimal
