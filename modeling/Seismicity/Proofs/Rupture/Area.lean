import Seismicity.Proofs.Rupture.Growth
import Seismicity.Proofs.Rupture.Layer

/-!
# Extents Keep the Area

In exact arithmetic a rupture keeps its area and fits into the layer, clipped or not.

The two components of the width are those of one vector at the angle of the dip, so the
width within the plane is the fitted width again (`extent_width_eq`), and the length is what
it leaves of the area. How long a rupture is for its width is then one formula, too. It gives
the aspect ratio for the natural width, and more than that for any lesser width, which is
what a clip leaves (`lengthToWidth_eq`, `area_div_sq_naturalWidth`).

Whether a clip is made is decided by comparing widths within the plane. Comparing the height
of the natural plane with that of the layer comes to the same, as the sine of the dip is
positive.

## Main definitions

* `RuptureInput.Sized`: An extent keeps the area and fits into the layer.

## Theorems

* `extent_width_eq`, `extent_area_eq`: The width within the plane, and the area.
* `clip?_eq_none_iff`, `widest_lt_naturalWidth_iff`, `clip?_eq`: When a clip is made.
* `lengthToWidth_eq`, `area_div_sq_naturalWidth`: The length in terms of the width.
* `extent_sized`: An extent keeps the area and fits.
-/

namespace Seismicity

namespace RuptureInput

variable {input : RuptureInput ℝ}

/-- The width within the plane is the fitted width. -/
theorem extent_width_eq (h : input.Admissible) : input.extent.width = input.fittedWidth := by
  have hsquare : (input.fittedWidth * Real.cos input.dipAngle) ^ 2
      + (input.fittedWidth * Real.sin input.dipAngle) ^ 2 = input.fittedWidth ^ 2 := by
    rw [mul_pow, mul_pow, ← mul_add, Real.cos_sq_add_sin_sq, mul_one]
  rw [extent_eq h]
  change Real.sqrt ((input.fittedWidth * Real.cos input.dipAngle) ^ 2
    + (input.fittedWidth * Real.sin input.dipAngle) ^ 2) = input.fittedWidth
  rw [hsquare, Real.sqrt_sq (fittedWidth_pos h).le]

theorem extent_area_eq (h : input.Admissible) : input.extent.area = input.area := by
  rw [Extent.area, extent_width_eq h, extent_length_eq h, div_mul_cancel₀ _ (fittedWidth_pos h).ne']

theorem clip?_eq_none_iff (input : RuptureInput ℝ) :
    input.clip? = none ↔ input.naturalWidth ≤ input.widest := by
  rw [clip?]
  by_cases hclip : input.widest < input.naturalWidth
  · simp only [if_pos hclip, reduceCtorEq, not_le.mpr hclip]
  · simp only [if_neg hclip, not_lt.mp hclip]

/-- The widest plane is too narrow exactly if the natural one is higher than the layer. -/
theorem widest_lt_naturalWidth_iff (h : input.Admissible) :
    input.widest < input.naturalWidth ↔ input.lower - input.upper
      < Real.sqrt (input.area / input.aspectRatio) * Real.sin input.dipAngle := by
  rw [← naturalWidth_eq_sqrt h]
  exact div_lt_iff₀ (sin_dipAngle_pos h)

/-- A clip is made if the natural plane is higher than the layer, and reports both widths. -/
theorem clip?_eq (h : input.Admissible) : input.clip? =
    if input.lower - input.upper
        < Real.sqrt (input.area / input.aspectRatio) * Real.sin input.dipAngle then
      some
        { magnitude := input.magnitude
          width := Real.sqrt (input.area / input.aspectRatio)
          widest := (input.lower - input.upper) / Real.sin input.dipAngle
          aspectRatio := input.aspectRatio }
    else none := by
  rw [clip?, ← naturalWidth_eq_sqrt h]
  by_cases hclip : input.widest < input.naturalWidth
  · have hhigher := (widest_lt_naturalWidth_iff h).mp hclip
    rw [← naturalWidth_eq_sqrt h] at hhigher
    rw [if_pos hclip, if_pos hhigher]
    rfl
  · have hfits := (widest_lt_naturalWidth_iff h).not.mp hclip
    rw [← naturalWidth_eq_sqrt h] at hfits
    rw [if_neg hclip, if_neg hfits]

/-- How long a rupture is for its width. -/
theorem lengthToWidth_eq (h : input.Admissible) :
    input.extent.length / input.extent.width = input.area / input.fittedWidth ^ 2 := by
  rw [extent_length_eq h, extent_width_eq h, div_div, ← sq]

/-- For the natural width that is the aspect ratio. -/
theorem area_div_sq_naturalWidth (h : input.Admissible) :
    input.area / input.naturalWidth ^ 2 = input.aspectRatio := by
  have harea := h.area.ne'
  have hratio := h.aspectRatio
  rw [naturalWidth_eq_sqrt h, Real.sq_sqrt (div_pos h.area hratio).le]
  field_simp

/-- An extent keeps the area and fits into the layer. It is clipped, and the clip reported,
    exactly if a plane that keeps the aspect ratio is higher than the layer. Clipped, it is as
    high as the layer and longer for its width than the aspect ratio asks for. -/
structure Sized (input : RuptureInput ℝ) (extent : Extent ℝ) : Prop where
  length_pos : 0 < extent.length
  width_pos : 0 < extent.width
  area : extent.area = input.area
  horizontal_nonneg : 0 ≤ extent.horizontal
  vertical_pos : 0 < extent.vertical
  vertical_le : extent.vertical ≤ input.lower - input.upper
  clip : input.clip? =
    if input.lower - input.upper
        < Real.sqrt (input.area / input.aspectRatio) * Real.sin input.dipAngle then
      some
        { magnitude := input.magnitude
          width := Real.sqrt (input.area / input.aspectRatio)
          widest := (input.lower - input.upper) / Real.sin input.dipAngle
          aspectRatio := input.aspectRatio }
    else none
  kept : input.clip? = none → extent.length / extent.width = input.aspectRatio
  clipped : ∀ clip, input.clip? = some clip →
    extent.vertical = input.lower - input.upper ∧
      input.aspectRatio < extent.length / extent.width

/-- The extent of a rupture keeps the area and fits into the layer. -/
theorem extent_sized (input : RuptureInput ℝ) (h : input.Admissible) :
    input.Sized input.extent where
  length_pos := extent_length_pos h
  width_pos := by
    rw [extent_width_eq h]
    exact fittedWidth_pos h
  area := extent_area_eq h
  horizontal_nonneg := extent_horizontal_nonneg h
  vertical_pos := extent_vertical_pos h
  vertical_le := extent_vertical_le h
  clip := clip?_eq h
  kept := by
    intro hclip
    have hfit : input.fittedWidth = input.naturalWidth :=
      min_eq_left ((clip?_eq_none_iff input).mp hclip)
    rw [lengthToWidth_eq h, hfit, area_div_sq_naturalWidth h]
  clipped := by
    intro clip hclip
    have hlt : input.widest < input.naturalWidth := by
      rw [← not_le, ← clip?_eq_none_iff, hclip]
      simp only [reduceCtorEq, not_false_eq_true]
    have hfit : input.fittedWidth = input.widest := min_eq_right hlt.le
    have hwidest := widest_pos h
    refine ⟨?_, ?_⟩
    · rw [extent_vertical_eq h, hfit]
      exact div_mul_cancel₀ _ (sin_dipAngle_pos h).ne'
    · -- The same area on less width is longer for it.
      have hsquares := pow_lt_pow_left₀ hlt hwidest.le two_ne_zero
      rw [lengthToWidth_eq h, hfit, ← area_div_sq_naturalWidth h]
      exact div_lt_div_of_pos_left h.area (pow_pos hwidest 2) hsquares

/-- A square of 1600 km² that dips by 30 degrees is twice as high as a layer of 10 km. -/
def highSquare : RuptureInput ℝ := { deepSquare with area := 1600 }

theorem highSquare_admissible : highSquare.Admissible := by
  constructor <;> norm_num [highSquare, deepSquare]

/-- The high square is clipped to half its width. -/
theorem extent_sized_highSquare :
    highSquare.Admissible ∧ highSquare.Sized highSquare.extent ∧
      highSquare.clip? = some { magnitude := 6, width := 40, widest := 20, aspectRatio := 1 } ∧
      highSquare.extent.vertical = 10 := by
  have hsized := extent_sized highSquare highSquare_admissible
  have hangle : highSquare.dipAngle = Real.pi / 6 := deepSquare_dipAngle
  have hroot : Real.sqrt 1600 = 40 := by
    rw [show (1600 : ℝ) = 40 ^ 2 by norm_num]
    exact Real.sqrt_sq (by norm_num)
  have hclip : highSquare.clip? =
      some { magnitude := 6, width := 40, widest := 20, aspectRatio := 1 } := by
    rw [hsized.clip, hangle, Real.sin_pi_div_six]
    norm_num [highSquare, deepSquare, hroot]
  refine ⟨highSquare_admissible, hsized, hclip, ?_⟩
  rw [(hsized.clipped _ hclip).1]
  norm_num [highSquare, deepSquare]

end RuptureInput

end Seismicity
