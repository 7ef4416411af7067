import Mathlib.Tactic.FieldSimp
import Mathlib.Tactic.Linarith
import Mathlib.Tactic.NormNum
import Mathlib.Tactic.Ring
import Seismicity.Proofs.Exact.Real
import Seismicity.Rupture.Extent

/-!
# Extents in Exact Arithmetic

What the length and the width of a rupture come to over the real numbers.

The extent is computed in two ways, depending on whether the natural width fits
into the layer. Both are the same way: the width is the lesser of the natural
width and the widest that fits, and the length is what that width leaves of the
area. `extent_eq` says so, and everything else about extents is read off it, so
that no later proof has to ask whether a clip is made.

`Admissible` is what an extent asks of its input. Nothing is asked of the
magnitude, the strike, the rake or the hypocenter.

## Main definitions

* `RuptureInput.Admissible`: A layer, an area, an aspect ratio and a dip that an
  extent can be computed from.
* `RuptureInput.fittedWidth`: The lesser of the natural and the widest width.

## Theorems

* `dipAngle_eq`, `sin_dipAngle_pos`, `cos_dipAngle_nonneg`: The dip in radians.
* `cos_dipAngle_pos`, `tan_dipAngle_pos`: That of a plane that is not vertical.
* `naturalLength_pos`, `naturalWidth_pos`, `widest_pos`, `fittedWidth_pos`.
* `extent_eq`: The extent without a case for the clip.
* `extent_length_pos`, `extent_vertical_pos`, `extent_vertical_le`: A rupture has
  a positive length and height and is no higher than the layer.
* `extent_vertical_eq_tan`: Its height and its horizontal extent are at the slope of the dip.
-/

namespace Seismicity

/-- The layer has a height, area and aspect ratio are positive, and the dip lies
    in `(0, 90]`. -/
structure RuptureInput.Admissible (input : RuptureInput ℝ) : Prop where
  layer : input.upper < input.lower
  area : 0 < input.area
  aspectRatio : 0 < input.aspectRatio
  dip_pos : 0 < input.dip
  dip_le : input.dip ≤ 90

namespace RuptureInput

variable {input : RuptureInput ℝ}

theorem dipAngle_eq (input : RuptureInput ℝ) : input.dipAngle = input.dip * (Real.pi / 180) :=
  Exact.toRadians_eq input.dip

theorem dipAngle_pos (h : input.Admissible) : 0 < input.dipAngle := by
  rw [dipAngle_eq]
  exact mul_pos h.dip_pos (div_pos Real.pi_pos (by norm_num))

theorem dipAngle_le (h : input.Admissible) : input.dipAngle ≤ Real.pi / 2 := by
  have hpi := Real.pi_pos
  have hdip := h.dip_le
  rw [dipAngle_eq]
  calc
    input.dip * (Real.pi / 180) ≤ 90 * (Real.pi / 180) := by gcongr
    _ = Real.pi / 2 := by ring

theorem sin_dipAngle_pos (h : input.Admissible) : 0 < Real.sin input.dipAngle := by
  have hpi := Real.pi_pos
  have hle := dipAngle_le h
  exact Real.sin_pos_of_pos_of_lt_pi (dipAngle_pos h) (by linarith)

theorem cos_dipAngle_nonneg (h : input.Admissible) : 0 ≤ Real.cos input.dipAngle := by
  have hpos := dipAngle_pos h
  have hpi := Real.pi_pos
  exact Real.cos_nonneg_of_neg_pi_div_two_le_of_le (by linarith) (dipAngle_le h)

theorem tan_dipAngle_nonneg (h : input.Admissible) : 0 ≤ Real.tan input.dipAngle := by
  rw [Real.tan_eq_sin_div_cos]
  exact div_nonneg (sin_dipAngle_pos h).le (cos_dipAngle_nonneg h)

/-- A plane that is not vertical. -/
theorem dipAngle_lt (h : input.Admissible) (hdip : input.dip < 90) :
    input.dipAngle < Real.pi / 2 := by
  refine lt_of_le_of_ne (dipAngle_le h) fun hright => ?_
  have hdegree : 0 < Real.pi / 180 := div_pos Real.pi_pos (by norm_num)
  have hless := mul_lt_mul_of_pos_right hdip hdegree
  rw [dipAngle_eq] at hright
  linarith

theorem cos_dipAngle_pos (h : input.Admissible) (hdip : input.dip < 90) :
    0 < Real.cos input.dipAngle := by
  have hpos := dipAngle_pos h
  have hpi := Real.pi_pos
  exact Real.cos_pos_of_mem_Ioo ⟨by linarith, dipAngle_lt h hdip⟩

theorem tan_dipAngle_pos (h : input.Admissible) (hdip : input.dip < 90) :
    0 < Real.tan input.dipAngle :=
  Real.tan_pos_of_pos_of_lt_pi_div_two (dipAngle_pos h) (dipAngle_lt h hdip)

theorem naturalLength_pos (h : input.Admissible) : 0 < input.naturalLength :=
  Real.sqrt_pos.mpr (mul_pos h.area h.aspectRatio)

theorem naturalWidth_pos (h : input.Admissible) : 0 < input.naturalWidth :=
  div_pos h.area (naturalLength_pos h)

theorem widest_pos (h : input.Admissible) : 0 < input.widest :=
  div_pos (sub_pos.mpr h.layer) (sin_dipAngle_pos h)

/-- The width of a rupture: the natural one, or the widest that fits. -/
noncomputable def fittedWidth (input : RuptureInput ℝ) : ℝ :=
  min input.naturalWidth input.widest

theorem fittedWidth_pos (h : input.Admissible) : 0 < input.fittedWidth :=
  lt_min (naturalWidth_pos h) (widest_pos h)

/-- The natural width is the area over the natural length, and so the other way
    round. -/
theorem area_div_naturalWidth (h : input.Admissible) :
    input.area / input.naturalWidth = input.naturalLength := by
  have harea : input.area ≠ 0 := h.area.ne'
  have hpos : input.naturalLength ≠ 0 := (naturalLength_pos h).ne'
  change input.area / (input.area / input.naturalLength) = input.naturalLength
  field_simp

/-- The length is what the fitted width leaves of the area. -/
theorem extent_eq (h : input.Admissible) :
    input.extent = input.extentOf (input.area / input.fittedWidth) input.fittedWidth := by
  by_cases hclip : input.widest < input.naturalWidth
  · have hfit : input.fittedWidth = input.widest := min_eq_right hclip.le
    rw [hfit, extent, clip?, if_pos hclip]
  · have hfit : input.fittedWidth = input.naturalWidth := min_eq_left (not_lt.mp hclip)
    rw [hfit, area_div_naturalWidth h, extent, clip?, if_neg hclip]

theorem extent_length_eq (h : input.Admissible) :
    input.extent.length = input.area / input.fittedWidth := by
  rw [extent_eq h]
  rfl

theorem extent_horizontal_eq (h : input.Admissible) :
    input.extent.horizontal = input.fittedWidth * Real.cos input.dipAngle := by
  rw [extent_eq h]
  rfl

theorem extent_vertical_eq (h : input.Admissible) :
    input.extent.vertical = input.fittedWidth * Real.sin input.dipAngle := by
  rw [extent_eq h]
  rfl

theorem extent_length_pos (h : input.Admissible) : 0 < input.extent.length := by
  rw [extent_length_eq h]
  exact div_pos h.area (fittedWidth_pos h)

theorem extent_vertical_pos (h : input.Admissible) : 0 < input.extent.vertical := by
  rw [extent_vertical_eq h]
  exact mul_pos (fittedWidth_pos h) (sin_dipAngle_pos h)

/-- A rupture is no higher than the layer. -/
theorem extent_vertical_le (h : input.Admissible) :
    input.extent.vertical ≤ input.lower - input.upper := by
  have hsin := sin_dipAngle_pos h
  rw [extent_vertical_eq h]
  calc
    input.fittedWidth * Real.sin input.dipAngle ≤ input.widest * Real.sin input.dipAngle :=
      mul_le_mul_of_nonneg_right (min_le_right _ _) hsin.le
    _ = input.lower - input.upper := div_mul_cancel₀ _ hsin.ne'

/-- A plane that is not vertical has an extent across its strike. -/
theorem extent_horizontal_pos (h : input.Admissible) (hdip : input.dip < 90) :
    0 < input.extent.horizontal := by
  rw [extent_horizontal_eq h]
  exact mul_pos (fittedWidth_pos h) (cos_dipAngle_pos h hdip)

/-- Its height and its horizontal extent are at the slope of the dip. -/
theorem extent_vertical_eq_tan (h : input.Admissible) (hdip : input.dip < 90) :
    input.extent.vertical = input.extent.horizontal * Real.tan input.dipAngle := by
  rw [extent_vertical_eq h, extent_horizontal_eq h, mul_assoc, mul_comm (Real.cos _),
    Real.tan_mul_cos (cos_dipAngle_pos h hdip).ne']

end RuptureInput

end Seismicity
