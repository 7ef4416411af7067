import Mathlib.Analysis.SpecialFunctions.Complex.Arg
import Mathlib.Analysis.SpecialFunctions.Pow.Real
import Mathlib.Analysis.SpecialFunctions.Trigonometric.Arctan
import Mathlib.Tactic.FieldSimp
import Mathlib.Tactic.Linarith
import Mathlib.Tactic.NormNum
import Seismicity.Scalar

/-!
# Exact Arithmetic

The real numbers as scalars: what the formulas of the library mean before any
rounding. Comparisons are decided classically, so nothing here can be run.

There is no real number above all others. The extremes of no numbers, which
doubles leave at the infinities, are therefore left at zero, and a statement
about reals has to say that its lists are not empty. Every real number is
finite and equal to itself, which makes the checks for numbers that are neither
pass.

## Main definitions

* The instance `Scalar ℝ`.
* `Exact.roundAway`: The nearest whole number, a half going away from zero.

## Theorems

* `zero_eq`, `one_eq`, `two_eq`, `half_eq`: Constants of the formulas.
* `toRadians_eq`, `toDegrees_eq`, `sum_eq`, `lesser_eq`, `clampUnit_eq_self`: The
  helpers of `Scalar` in the usual notation.
* `exists_remainder_eq`: A remainder differs by a multiple of the divisor.
* `remainder_nonneg`, `remainder_lt`, `remainder_eq_self`, `remainder_add_int_mul`: It is the
  only such number from zero up to the divisor.
* `exists_roundAway_eq`, `roundAway_intCast`, `roundAway_mono`: Rounding gives whole numbers,
  leaves them as they are, and keeps the order.
* `abs_roundTo6_sub_le`: Rounding to six decimals moves by half a unit at most.
-/

namespace Seismicity

namespace Exact

/-- The nearest whole number; a half goes away from zero. -/
noncomputable def roundAway (x : ℝ) : ℝ := if 0 ≤ x then ⌊x + 1 / 2⌋ else ⌈x - 1 / 2⌉

/-- The remainder of division towards minus infinity by the size of the
    divisor. -/
noncomputable def remainder (x y : ℝ) : ℝ := x - |y| * ⌊x / |y|⌋

end Exact

noncomputable instance : Scalar ℝ where
  beq x y := @decide (x = y) (Classical.propDecidable _)
  decideLt x y := Classical.propDecidable (x < y)
  decideLe x y := Classical.propDecidable (x ≤ y)
  ofNat n := n
  unbounded := 0
  pi := Real.pi
  isFinite _ := true
  abs x := |x|
  sqrt := Real.sqrt
  sin := Real.sin
  cos := Real.cos
  tan := Real.tan
  asin := Real.arcsin
  atan := Real.arctan
  atan2 ordinate abscissa := Complex.arg ⟨abscissa, ordinate⟩
  hypot x y := Real.sqrt (x ^ 2 + y ^ 2)
  tenPow x := (10 : ℝ) ^ x
  expMinusOne x := Real.exp x - 1
  floor x := ⌊x⌋
  ceil x := ⌈x⌉
  round := Exact.roundAway
  remainder := Exact.remainder
  wholePart x := ⌊x⌋₊
  stepCount x := ⌊x⌋₊ + 1
  sortsBefore x y := @decide (x ≤ y) (Classical.propDecidable _)

namespace Exact

theorem beq_iff_eq (x y : ℝ) : ((Scalar.toBEq.beq x y : Bool) = true) ↔ x = y :=
  decide_eq_true_iff

@[simp]
theorem beq_self (x : ℝ) : (Scalar.toBEq.beq x x : Bool) = true := (beq_iff_eq x x).mpr rfl

theorem zero_eq : (0.0 : ℝ) = 0 := by norm_num

theorem one_eq : (1.0 : ℝ) = 1 := by norm_num

theorem two_eq : (2.0 : ℝ) = 2 := by norm_num

theorem half_eq (x : ℝ) : x / 2.0 = x / 2 := by rw [two_eq]

theorem toRadians_eq (x : ℝ) : Scalar.toRadians x = x * (Real.pi / 180) := by
  change x * (Real.pi / 180.0) = x * (Real.pi / 180)
  norm_num

theorem toDegrees_eq (x : ℝ) : Scalar.toDegrees x = x * (180 / Real.pi) := by
  change x * (180.0 / Real.pi) = x * (180 / Real.pi)
  norm_num

theorem toRadians_toDegrees (x : ℝ) : Scalar.toRadians (Scalar.toDegrees x) = x := by
  have hpi := Real.pi_ne_zero
  rw [toRadians_eq, toDegrees_eq]
  field_simp

theorem sum_eq (xs : List ℝ) : Scalar.sum xs = xs.sum := by
  have hzero : (-0.0 : ℝ) = 0 := by norm_num
  rw [List.sum_eq_foldl, ← hzero]
  rfl

theorem lesser_eq (x y : ℝ) : Scalar.lesser x y = min x y := by
  by_cases hlt : y < x
  · rw [min_eq_right hlt.le]
    exact if_pos hlt
  · rw [min_eq_left (not_lt.mp hlt), Scalar.lesser, if_neg hlt, if_pos (beq_self x)]

theorem clampUnit_eq_self (x : ℝ) (hlow : -1 ≤ x) (hhigh : x ≤ 1) : Scalar.clampUnit x = x := by
  have hbelow : ¬ x < -1.0 := by
    norm_num
    exact hlow
  have habove : ¬ (1.0 : ℝ) < x := by
    norm_num
    exact hhigh
  exact (if_neg hbelow).trans (if_neg habove)

theorem exists_remainder_eq (x y : ℝ) : ∃ n : ℤ, remainder x y = x - n * |y| :=
  ⟨⌊x / |y|⌋, by rw [remainder, mul_comm]⟩

theorem remainder_eq_fract (x : ℝ) {y : ℝ} (hy : 0 < y) :
    remainder x y = y * Int.fract (x / y) := by
  rw [remainder, abs_of_pos hy, Int.fract, mul_sub, mul_div_cancel₀ x hy.ne']

theorem remainder_nonneg (x : ℝ) {y : ℝ} (hy : 0 < y) : 0 ≤ remainder x y := by
  rw [remainder_eq_fract x hy]
  exact mul_nonneg hy.le (Int.fract_nonneg _)

theorem remainder_lt (x : ℝ) {y : ℝ} (hy : 0 < y) : remainder x y < y := by
  rw [remainder_eq_fract x hy]
  exact mul_lt_of_lt_one_right hy (Int.fract_lt_one _)

theorem remainder_eq_self {x y : ℝ} (hx : 0 ≤ x) (hlt : x < y) : remainder x y = x := by
  have hy : 0 < y := hx.trans_lt hlt
  have hfract : Int.fract (x / y) = x / y :=
    Int.fract_eq_self.mpr ⟨div_nonneg hx hy.le, (div_lt_one hy).mpr hlt⟩
  rw [remainder_eq_fract x hy, hfract, mul_div_cancel₀ x hy.ne']

/-- Multiples of the divisor leave no remainder. -/
theorem remainder_add_int_mul (x : ℝ) (n : ℤ) {y : ℝ} (hy : 0 < y) :
    remainder (x + n * y) y = remainder x y := by
  rw [remainder_eq_fract _ hy, remainder_eq_fract _ hy, add_div, mul_div_cancel_right₀ _ hy.ne',
    Int.fract_add_intCast]

theorem abs_roundAway_sub_le (x : ℝ) : |roundAway x - x| ≤ 1 / 2 := by
  rw [roundAway, abs_le]
  by_cases hx : 0 ≤ x
  · rw [if_pos hx]
    have hle := Int.floor_le (x + 1 / 2)
    have hlt := Int.lt_floor_add_one (x + 1 / 2)
    constructor <;> linarith
  · rw [if_neg hx]
    have hle := Int.le_ceil (x - 1 / 2)
    have hlt := Int.ceil_lt_add_one (x - 1 / 2)
    constructor <;> linarith

theorem exists_roundAway_eq (x : ℝ) : ∃ n : ℤ, roundAway x = n := by
  by_cases hx : 0 ≤ x
  · exact ⟨⌊x + 1 / 2⌋, if_pos hx⟩
  · exact ⟨⌈x - 1 / 2⌉, if_neg hx⟩

/-- Whole numbers stay as they are. -/
theorem roundAway_intCast (n : ℤ) : roundAway n = n := by
  have hfloor : ⌊(n : ℝ) + 1 / 2⌋ = n := by
    rw [Int.floor_eq_iff]
    constructor <;> linarith
  have hceil : ⌈(n : ℝ) - 1 / 2⌉ = n := by
    rw [Int.ceil_eq_iff]
    constructor <;> linarith
  rw [roundAway, hfloor, hceil, ite_self]

theorem roundAway_mono : Monotone roundAway := by
  intro x y hle
  rw [roundAway, roundAway]
  by_cases hx : 0 ≤ x
  · rw [if_pos hx, if_pos (hx.trans hle), Int.cast_le]
    exact Int.floor_le_floor (by linarith)
  · rw [if_neg hx]
    by_cases hy : 0 ≤ y
    · -- The two are rounded away from each other.
      have hbelow : ⌈x - 1 / 2⌉ ≤ 0 := by
        rw [Int.ceil_le, Int.cast_zero]
        linarith
      have habove : 0 ≤ ⌊y + 1 / 2⌋ := Int.floor_nonneg.mpr (by linarith)
      rw [if_pos hy, Int.cast_le]
      exact hbelow.trans habove
    · rw [if_neg hy, Int.cast_le]
      exact Int.ceil_le_ceil (by linarith)

/-- Rounding to six decimals moves a number by half a unit of the last. -/
theorem abs_roundTo6_sub_le (x : ℝ) : |Scalar.roundTo6 x - x| ≤ 1 / 2 / 10 ^ 6 := by
  have hpos : (0 : ℝ) < 10 ^ 6 := by norm_num
  have heq : Scalar.roundTo6 x - x = (roundAway (x * 10 ^ 6) - x * 10 ^ 6) / 10 ^ 6 := by
    change roundAway (x * 1000000.0) / 1000000.0 - x = _
    have hscale : (1000000.0 : ℝ) = 10 ^ 6 := by norm_num
    rw [hscale]
    field_simp
  rw [heq, abs_div, abs_of_pos hpos]
  exact div_le_div_of_nonneg_right (abs_roundAway_sub_le _) hpos.le

end Exact

end Seismicity
