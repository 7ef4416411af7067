import Seismicity.Proofs.Rupture.Extent
import Seismicity.Rupture.Basic

/-!
# Ruptures Grow with Magnitude

A greater magnitude means a greater area, and a greater area a rupture that is
no shorter and no narrower. So the radius of its projection grows, too.

The width stops growing where the layer is filled, and from there on the length
follows another formula. Neither switch is seen in what is compared here. The
width is the lesser of the natural and the widest width (`fittedWidth`), and the
length turns out to be the greater of the natural length and the length that the
widest plane needs (`extent_length_eq_max`). Each of the four numbers grows with
the area or does not depend on it, and minima and maxima keep that.

`Outgrows` is the comparison that is made: one plane in one layer, with two areas.
The hypocenter, the strike and the rake may differ, because an extent does not
depend on them.

## Main definitions

* `RuptureInput.Outgrows`: The same plane in the same layer, with a greater area.
* `Placement.legs`: The ways from the centre of a plane to its corners.

## Theorems

* `ScalingRelation.medianArea_mono`: Every relation grows with the magnitude.
* `naturalWidth_eq_sqrt`, `extent_length_eq_max`: Formulas without a switch.
* `extent_length_mono`, `extent_horizontal_mono`, `projectionRadius_mono`: What
  grows with the area.
* `Extent.projectionRadius_eq`, `leg_distance_eq`: All corners are the projection radius
  away from the centre.
-/

namespace Seismicity

/-- Every scaling relation gives a greater magnitude an area that is no smaller. -/
theorem ScalingRelation.medianArea_mono (relation : ScalingRelation) (rake : Option ℝ) :
    Monotone fun magnitude => relation.medianArea magnitude rake := by
  intro m m' hle
  have hpower : ∀ x y : ℝ, x ≤ y → (Scalar.tenPow x : ℝ) ≤ Scalar.tenPow y := by
    intro x y hxy
    exact Real.rpow_le_rpow_of_exponent_le (by norm_num) hxy
  -- All exponents are linear in the magnitude, with a slope that is not negative.
  have hlinear : ∀ a b : ℝ, 0 ≤ b → a + b * m ≤ a + b * m' := by
    intro a b hb
    have hscaled := mul_le_mul_of_nonneg_left hle hb
    linarith
  cases relation with
  | wc1994 =>
      simp only [medianArea]
      cases FaultingStyle.ofRake rake with
      | all => exact hpower _ _ (hlinear _ _ (by norm_num))
      | strikeSlip => exact hpower _ _ (hlinear _ _ (by norm_num))
      | thrust => exact hpower _ _ (hlinear _ _ (by norm_num))
      | normal => exact hpower _ _ (hlinear _ _ (by norm_num))
  | peer => exact hpower _ _ (sub_le_sub_right hle _)
  | point => exact le_refl _
  | germany => exact hpower _ _ (hlinear _ _ (by norm_num))

namespace RuptureInput

/-- The same plane in the same layer, with an area that is no smaller. -/
structure Outgrows (larger input : RuptureInput ℝ) : Prop where
  upper : larger.upper = input.upper
  lower : larger.lower = input.lower
  aspectRatio : larger.aspectRatio = input.aspectRatio
  dip : larger.dip = input.dip
  area : input.area ≤ larger.area

variable {input larger : RuptureInput ℝ}

/-- The natural width, as a formula that grows with the area. -/
theorem naturalWidth_eq_sqrt (h : input.Admissible) :
    input.naturalWidth = Real.sqrt (input.area / input.aspectRatio) := by
  have hratio := h.aspectRatio
  have harea := h.area
  have hsquare : input.area / input.aspectRatio * (input.area * input.aspectRatio)
      = input.area ^ 2 := by
    field_simp
  have hproduct : Real.sqrt (input.area / input.aspectRatio) * input.naturalLength
      = input.area := by
    calc
      Real.sqrt (input.area / input.aspectRatio) * input.naturalLength
          = Real.sqrt (input.area / input.aspectRatio * (input.area * input.aspectRatio)) :=
        (Real.sqrt_mul (div_pos harea hratio).le _).symm
      _ = input.area := by rw [hsquare, Real.sqrt_sq harea.le]
  exact (eq_div_of_mul_eq (naturalLength_pos h).ne' hproduct).symm

/-- The length is the natural one, or the one that the widest plane needs if that
    is greater. -/
theorem extent_length_eq_max (h : input.Admissible) :
    input.extent.length = max input.naturalLength (input.area / input.widest) := by
  have harea := h.area
  have hwidest := widest_pos h
  have hnatural := naturalWidth_pos h
  rw [extent_length_eq h, fittedWidth, ← area_div_naturalWidth h]
  -- Of two widths the lesser needs the greater length.
  rcases le_total input.naturalWidth input.widest with hle | hle
  · have hlonger := div_le_div_of_nonneg_left harea.le hnatural hle
    rw [min_eq_left hle, max_eq_left hlonger]
  · have hlonger := div_le_div_of_nonneg_left harea.le hwidest hle
    rw [min_eq_right hle, max_eq_right hlonger]

theorem Outgrows.dipAngle_eq (hgrow : larger.Outgrows input) : larger.dipAngle = input.dipAngle :=
  congrArg Scalar.toRadians hgrow.dip

theorem Outgrows.widest_eq (hgrow : larger.Outgrows input) : larger.widest = input.widest := by
  rw [widest, widest, hgrow.upper, hgrow.lower, hgrow.dipAngle_eq]

theorem naturalLength_mono (h : input.Admissible) (hgrow : larger.Outgrows input) :
    input.naturalLength ≤ larger.naturalLength := by
  have hproduct := mul_le_mul_of_nonneg_right hgrow.area h.aspectRatio.le
  refine Real.sqrt_le_sqrt ?_
  rw [hgrow.aspectRatio]
  exact hproduct

theorem fittedWidth_mono (h : input.Admissible) (h' : larger.Admissible)
    (hgrow : larger.Outgrows input) : input.fittedWidth ≤ larger.fittedWidth := by
  have hquotient := div_le_div_of_nonneg_right hgrow.area h.aspectRatio.le
  have hnatural : input.naturalWidth ≤ larger.naturalWidth := by
    rw [naturalWidth_eq_sqrt h, naturalWidth_eq_sqrt h', hgrow.aspectRatio]
    exact Real.sqrt_le_sqrt hquotient
  rw [fittedWidth, fittedWidth, hgrow.widest_eq]
  exact min_le_min_right input.widest hnatural

theorem extent_length_mono (h : input.Admissible) (h' : larger.Admissible)
    (hgrow : larger.Outgrows input) : input.extent.length ≤ larger.extent.length := by
  have hstretched := div_le_div_of_nonneg_right hgrow.area (widest_pos h).le
  rw [extent_length_eq_max h, extent_length_eq_max h', hgrow.widest_eq]
  exact max_le_max (naturalLength_mono h hgrow) hstretched

theorem extent_horizontal_nonneg (h : input.Admissible) : 0 ≤ input.extent.horizontal := by
  rw [extent_horizontal_eq h]
  exact mul_nonneg (fittedWidth_pos h).le (cos_dipAngle_nonneg h)

theorem extent_horizontal_mono (h : input.Admissible) (h' : larger.Admissible)
    (hgrow : larger.Outgrows input) : input.extent.horizontal ≤ larger.extent.horizontal := by
  rw [extent_horizontal_eq h, extent_horizontal_eq h', hgrow.dipAngle_eq]
  exact mul_le_mul_of_nonneg_right (fittedWidth_mono h h' hgrow) (cos_dipAngle_nonneg h)

/-- The projection radius grows with the area, also where the width stops
    growing. -/
theorem projectionRadius_mono (h : input.Admissible) (h' : larger.Admissible)
    (hgrow : larger.Outgrows input) :
    input.extent.projectionRadius ≤ larger.extent.projectionRadius := by
  have hlength := pow_le_pow_left₀ (extent_length_pos h).le (extent_length_mono h h' hgrow) 2
  have hhorizontal := pow_le_pow_left₀ (extent_horizontal_nonneg h)
    (extent_horizontal_mono h h' hgrow) 2
  have htwo : (0 : ℝ) ≤ 2.0 := by norm_num
  exact div_le_div_of_nonneg_right (Real.sqrt_le_sqrt (add_le_add hlength hhorizontal)) htwo

end RuptureInput

/-- The ways from the centre of a plane to its corners: top left, top right, bottom
    right, bottom left. -/
def Placement.legs {α : Type} (placement : Placement α) : List (Leg α) :=
  [placement.topLeft, placement.topRight, placement.bottomRight, placement.bottomLeft]

/-- Half a diagonal is the diagonal of half the length and half the width. -/
theorem Extent.projectionRadius_eq (extent : Extent ℝ) : extent.projectionRadius
    = Real.sqrt ((extent.length / 2) ^ 2 + (extent.horizontal / 2) ^ 2) := by
  have hquarter : (extent.length / 2) ^ 2 + (extent.horizontal / 2) ^ 2
      = (extent.length ^ 2 + extent.horizontal ^ 2) / 2 ^ 2 := by
    ring
  rw [hquarter, Real.sqrt_div (by positivity), Real.sqrt_sq zero_le_two, ← Exact.half_eq]
  rfl

/-- All corners of a plane are as far from its centre as the projection radius
    says. -/
theorem RuptureInput.leg_distance_eq (input : RuptureInput ℝ) (extent : Extent ℝ) :
    ∀ leg ∈ (input.placement extent).legs, leg.distance = extent.projectionRadius := by
  have hhalf : (Scalar.hypot (extent.length / 2.0) (extent.horizontal / 2.0) : ℝ)
      = extent.projectionRadius := by
    rw [extent.projectionRadius_eq, Exact.half_eq, Exact.half_eq]
    rfl
  simp only [Placement.legs, List.forall_mem_cons, List.not_mem_nil, false_imp_iff, implies_true,
    and_true]
  exact ⟨hhalf, hhalf, hhalf, hhalf⟩

end Seismicity
