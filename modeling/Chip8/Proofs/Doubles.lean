import Chip8.Host

/-!
Whole numbers that have no double.

* `overflow` — the least of them.
* `significand_reaches_iff` — rounding takes a number past a power of two if it comes near to it.
* `nearestOfNat?_eq_none_iff` — the numbers without a double are those from `overflow` on.
* `intervalOf_of_overflow`, `exists_intervalOf` — as a clock speed, a host refuses them and takes
  all others above zero.
-/

namespace Chip8.Time

/-- The least number that comes as near to `limit` as to the greatest double. -/
def overflow : Nat := limit - Nat.pow 2 970

/-! ### Rounding -/

/-- A significand is the number cut off, or one more. -/
theorem significand_bounds (number shift : Nat) :
    number / Nat.pow 2 shift ≤ significand number shift ∧
      significand number shift ≤ number / Nat.pow 2 shift + 1 := by
  simp only [significand]
  split <;> omega

/-- Of a number of 53 digits and `shift` more, the significand has 53 digits too unless the number
comes within half a unit of the next power of two. -/
theorem significand_lt_iff {number shift : Nat} (longer : 0 < shift)
    (short : number < 0x20000000000000 * Nat.pow 2 shift) :
    significand number shift < 0x20000000000000 ↔
      number < 0x20000000000000 * Nat.pow 2 shift - Nat.pow 2 (shift - 1) := by
  obtain ⟨shift, rfl⟩ := Nat.exists_eq_add_of_le' longer
  have unit : Nat.pow 2 (shift + 1) = 2 * Nat.pow 2 shift := Nat.pow_succ'
  have positive : 0 < Nat.pow 2 shift := Nat.pow_pos (by decide)
  simp only [significand, Nat.add_sub_cancel, unit] at short ⊢
  generalize Nat.pow 2 shift = half at positive short ⊢
  have parts := Nat.div_add_mod number (2 * half)
  have below := Nat.mod_lt number (show 0 < 2 * half by omega)
  have within : number / (2 * half) < 0x20000000000000 :=
    Nat.div_lt_of_lt_mul (by rwa [Nat.mul_comm])
  generalize number / (2 * half) = cut at parts within ⊢
  generalize number % (2 * half) = rest at parts below ⊢
  by_cases last : cut = 0x1FFFFFFFFFFFFF
  · subst last
    split <;> omega
  · have under : 2 * half * cut + 2 * half ≤ 2 * half * 0x1FFFFFFFFFFFFF := by
      rw [← Nat.mul_succ]
      exact Nat.mul_le_mul_left _ (by omega)
    split <;> omega

/-- A number of 53 digits and `shift` more is rounded past the powers of two that it comes near to
and past no others. -/
theorem significand_reaches_iff {number shift place : Nat} (longer : 0 < shift) (beyond : 0 < place)
    (above : 0x10000000000000 * Nat.pow 2 shift ≤ number)
    (below : number < 0x20000000000000 * Nat.pow 2 shift) :
    0x20000000000000 * Nat.pow 2 place ≤ significand number shift * Nat.pow 2 shift ↔
      0x20000000000000 * Nat.pow 2 place - Nat.pow 2 (place - 1) ≤ number := by
  obtain ⟨least, most⟩ := significand_bounds number shift
  have unit : 0 < Nat.pow 2 shift := Nat.pow_pos (by decide)
  have double : Nat.pow 2 place = 2 * Nat.pow 2 (place - 1) := by
    obtain ⟨place, rfl⟩ := Nat.exists_eq_add_of_le' beyond
    exact Nat.pow_succ'
  rcases Nat.lt_trichotomy shift place with short | rfl | long
  · -- Even the next power of two is less.
    have power : Nat.pow 2 shift ≤ Nat.pow 2 (place - 1) :=
      Nat.pow_le_pow_right (by decide) (by omega)
    have cut := (Nat.div_lt_iff_lt_mul unit).mpr below
    have product : significand number shift * Nat.pow 2 shift ≤
        0x20000000000000 * Nat.pow 2 shift := Nat.mul_le_mul_right _ (by omega)
    omega
  · rw [Nat.mul_le_mul_right_iff unit, ← Nat.not_lt, significand_lt_iff longer below, Nat.not_lt]
  · have power : Nat.pow 2 (place + 1) ≤ Nat.pow 2 shift := Nat.pow_le_pow_right (by decide) long
    have next : Nat.pow 2 (place + 1) = 2 * Nat.pow 2 place := Nat.pow_succ'
    have cut := (Nat.le_div_iff_mul_le unit).mpr above
    have product : 0x10000000000000 * Nat.pow 2 shift ≤
        significand number shift * Nat.pow 2 shift :=
      Nat.mul_le_mul_right _ (Nat.le_trans cut least)
    omega

/-- Exactly the numbers from `overflow` on have no double. -/
theorem nearestOfNat?_eq_none_iff (number : Nat) :
    nearestOfNat? number = none ↔ overflow ≤ number := by
  obtain ⟨place, beyond, last, halfway⟩ : ∃ place, 0 < place ∧
      limit = 0x20000000000000 * Nat.pow 2 place ∧
      overflow = 0x20000000000000 * Nat.pow 2 place - Nat.pow 2 (place - 1) :=
    ⟨971, by decide +kernel⟩
  unfold nearestOfNat?
  by_cases small : number < 0x20000000000000
  · have low : 0x20000000000000 ≤ overflow := by decide +kernel
    rw [if_pos small]
    exact ⟨nofun, fun beyond => by omega⟩
  rw [if_neg small]
  have above : Nat.pow 2 number.log2 ≤ number := Nat.log2_self_le (by omega)
  have below : number < Nat.pow 2 (number.log2 + 1) := Nat.lt_log2_self
  have digits : 53 ≤ number.log2 := (Nat.le_log2 (by omega)).mpr (by omega)
  obtain ⟨shift, length⟩ : ∃ shift, number.log2 = shift + 52 := ⟨number.log2 - 52, by omega⟩
  rw [length] at above below digits ⊢
  rw [show Nat.pow 2 (shift + 52) = _ from Nat.pow_add' 2 shift 52] at above
  rw [show Nat.pow 2 (shift + 52 + 1) = _ from Nat.pow_add' 2 shift 53] at below
  simp only [Nat.add_sub_cancel, ite_eq_right_iff, reduceCtorEq, imp_false, Nat.not_lt]
  rw [last, halfway]
  exact significand_reaches_iff (by omega) beyond above below

end Chip8.Time

namespace Chip8.Host

open Time (overflow)

theorem intervalOf_of_overflow {speed : Int} (beyond : overflow ≤ speed) :
    intervalOf (.whole speed) = .error (.host .beyondDoubles) := by
  obtain ⟨speed, rfl⟩ := Int.eq_ofNat_of_zero_le (Int.le_trans (Int.natCast_nonneg _) beyond)
  have big : overflow ≤ speed := Int.ofNat_le.mp beyond
  have positive : ClockSpeed.isPositive (.whole speed) = true :=
    decide_eq_true (Int.ofNat_lt.mpr (Nat.lt_of_lt_of_le (by decide +kernel) big))
  have missing : Time.nearest? speed = none := (Time.nearestOfNat?_eq_none_iff speed).mpr big
  simp only [intervalOf, positive, if_true, ClockSpeed.interval?, missing, Option.map_none]

theorem exists_intervalOf {speed : Int} (positive : 0 < speed) (within : speed < overflow) :
    ∃ interval, intervalOf (.whole speed) = .ok interval := by
  obtain ⟨speed, rfl⟩ := Int.eq_ofNat_of_zero_le (Int.le_of_lt positive)
  have small : ¬ overflow ≤ speed := Nat.not_le.mpr (Int.ofNat_lt.mp within)
  obtain ⟨double, found⟩ :=
    Option.ne_none_iff_exists'.mp (mt (Time.nearestOfNat?_eq_none_iff speed).mp small)
  have found : Time.nearest? speed = some double := found
  have positive : ClockSpeed.isPositive (.whole speed) = true := decide_eq_true positive
  refine ⟨1.0 / double, ?_⟩
  simp only [intervalOf, positive, if_true, ClockSpeed.interval?, found, Option.map_some]

end Chip8.Host
