import Seismicity.Proofs.Rupture.Growth
import Seismicity.Proofs.Rupture.Layer

/-!
# Corners as Seen from the Hypocenter

Where the corners of a rupture plane lie over the ground, when each leg of its
layout is read as a plane vector.

A vector is a complex number: its northward part is real, its eastward part
imaginary. Azimuths are then turns, and turns are multiplications by `heading`, so
that the two diagonals and the move down or up the dip are all brought into one
frame, the strike and the direction across it. In that frame the move is along
the second axis (`moveVector_eq`), since it follows the dip, and the corners are
those of a rectangle that has slid by as much (`offsets_eq`).

The furthest corner is the one to which the slide adds (`reach`). It is within half
a diagonal of the hypocenter only if nothing slides
(`reach_le_projectionRadius_iff`).

## Main definitions

* `Geodesy.heading`: The unit vector of an azimuth.
* `Leg.vector`: A leg as a plane vector.
* `Placement.offsets`: Where the corners lie, as seen from the hypocenter.
* `RuptureInput.slide`: How far the centre moves down the dip, over the ground.
* `RuptureInput.reach`: How far away the furthest corner is.
* `RuptureInput.Rests`: The plane does not slide.

## Theorems

* `heading_add`, `heading_normalizeAzimuth`: Azimuths add up, and full turns do not
  count.
* `moveVector_eq`, `offsets_eq`: The move and the corners in the frame of the strike.
* `offsets_le_iff`: A circle holds all corners exactly if it is as wide as the reach.
* `reach_le`: Half a diagonal and the slide are always enough.
* `reach_le_projectionRadius_iff`: Half a diagonal is enough exactly without a slide.
* `slide_eq_zero_iff`: When nothing slides.
-/

namespace Seismicity

namespace Geodesy

/-- The unit vector of an azimuth: northward parts are real, eastward parts
    imaginary. -/
noncomputable def heading (azimuth : ℝ) : ℂ :=
  Complex.exp ((Scalar.toRadians azimuth : ℝ) * Complex.I)

theorem norm_heading (azimuth : ℝ) : ‖heading azimuth‖ = 1 := Complex.norm_exp_ofReal_mul_I _

theorem heading_add (a b : ℝ) : heading (a + b) = heading a * heading b := by
  rw [heading, heading, heading, ← Complex.exp_add, Exact.toRadians_eq, Exact.toRadians_eq,
    Exact.toRadians_eq]
  push_cast
  ring_nf

theorem heading_eq (azimuth : ℝ) : heading azimuth =
    ⟨Real.cos (Scalar.toRadians azimuth), Real.sin (Scalar.toRadians azimuth)⟩ := by
  rw [heading, Complex.exp_mul_I, ← Complex.ofReal_cos, ← Complex.ofReal_sin]
  exact (Complex.mk_eq_add_mul_I _ _).symm

/-- The azimuth on the other side of north. -/
theorem heading_neg (azimuth : ℝ) :
    heading (-azimuth) = (starRingEnd ℂ) (heading azimuth) := by
  have hangle : (Scalar.toRadians (-azimuth) : ℝ) = -Scalar.toRadians azimuth := by
    rw [Exact.toRadians_eq, Exact.toRadians_eq, neg_mul]
  rw [heading_eq, heading_eq, hangle, Real.cos_neg, Real.sin_neg]
  rfl

/-- A right angle. -/
theorem heading_right : heading 90.0 = Complex.I := by
  have hangle : (Scalar.toRadians 90.0 : ℝ) = Real.pi / 2 := by
    have hright : (90.0 : ℝ) = 90 := by norm_num
    rw [Exact.toRadians_eq, hright]
    ring
  rw [heading_eq, hangle, Real.cos_pi_div_two, Real.sin_pi_div_two]
  rfl

/-- Half a turn. -/
theorem heading_back : heading 180.0 = -1 := by
  have hangle : (Scalar.toRadians 180.0 : ℝ) = Real.pi := by
    have hback : (180.0 : ℝ) = 180 := by norm_num
    rw [Exact.toRadians_eq, hback]
    ring
  rw [heading_eq, hangle, Real.cos_pi, Real.sin_pi, Complex.ext_iff]
  exact ⟨rfl, neg_zero.symm⟩

/-- Full turns do not count. -/
theorem heading_normalizeAzimuth (azimuth : ℝ) :
    heading (normalizeAzimuth azimuth) = heading azimuth := by
  rcases Exact.exists_remainder_eq azimuth 360.0 with ⟨n, hn⟩
  have hfull : |(360.0 : ℝ)| = 360 := by norm_num
  have hturns : (Scalar.toRadians (normalizeAzimuth azimuth) : ℝ)
      = Scalar.toRadians azimuth - n * (2 * Real.pi) := by
    change Scalar.toRadians (Exact.remainder azimuth 360.0) = _
    rw [hn, hfull, Exact.toRadians_eq, Exact.toRadians_eq]
    ring
  rw [heading_eq, heading_eq, hturns, Real.cos_sub_int_mul_two_pi, Real.sin_sub_int_mul_two_pi]

end Geodesy

/-- A leg as a plane vector. -/
noncomputable def Leg.vector (leg : Leg ℝ) : ℂ := leg.distance * Geodesy.heading leg.azimuth

namespace Placement

/-- How the centre lies, as seen from the hypocenter. -/
noncomputable def moveVector (placement : Placement ℝ) : ℂ :=
  match placement.move with
  | none => 0
  | some leg => leg.vector

/-- Where the corners lie, as seen from the hypocenter: top left, top right, bottom
    right, bottom left. -/
noncomputable def offsets (placement : Placement ℝ) : List ℂ :=
  placement.legs.map fun leg => placement.moveVector + leg.vector

end Placement

namespace RuptureInput

open Geodesy

variable (input : RuptureInput ℝ) (extent : Extent ℝ)

/-- How far the centre moves down the dip, over the ground; negative if it moves
    up. -/
noncomputable def slide : ℝ :=
  (input.clampedDepth (extent.vertical / 2.0) - input.depth) / Real.tan input.dipAngle

/-- How far the furthest corner is from the hypocenter. -/
noncomputable def reach : ℝ :=
  Real.sqrt ((extent.length / 2.0) ^ 2 + (extent.horizontal / 2.0 + |input.slide extent|) ^ 2)

theorem slide_eq : input.slide extent
    = (input.clampedDepth (extent.vertical / 2) - input.depth) / Real.tan input.dipAngle := by
  rw [slide, Exact.half_eq]

theorem reach_eq : input.reach extent
    = Real.sqrt ((extent.length / 2) ^ 2
      + (extent.horizontal / 2 + |input.slide extent|) ^ 2) := by
  rw [reach, Exact.half_eq, Exact.half_eq]

theorem heading_azimuthDown : heading input.azimuthDown = heading input.strike * Complex.I := by
  rw [azimuthDown, heading_normalizeAzimuth, heading_add, heading_right]

theorem heading_azimuthUp : heading input.azimuthUp = -(heading input.strike * Complex.I) := by
  rw [azimuthUp, heading_normalizeAzimuth, heading_add, heading_normalizeAzimuth, heading_add,
    heading_azimuthDown, heading_right]
  linear_combination heading input.strike * Complex.I * Complex.I_sq

/-- The centre moves across the strike. -/
theorem moveVector_eq (hfits : extent.vertical ≤ input.lower - input.upper)
    (htan : 0 ≤ Real.tan input.dipAngle) :
    (input.placement extent).moveVector
      = heading input.strike * ⟨0, input.slide extent⟩ := by
  have hacross : (⟨0, input.slide extent⟩ : ℂ) = input.slide extent * Complex.I := by
    rw [Complex.mk_eq_add_mul_I, Complex.ofReal_zero, zero_add]
  rw [Placement.moveVector, move_eq input extent hfits htan, hacross, slide_eq]
  by_cases hkept : input.clampedDepth (extent.vertical / 2) = input.depth
  · rw [if_pos hkept, hkept, sub_self, zero_div, Complex.ofReal_zero, zero_mul, mul_zero]
  · rw [if_neg hkept]
    by_cases hup : input.clampedDepth (extent.vertical / 2) < input.depth
    · simp only [Leg.vector, moveLeg, if_pos hup, heading_azimuthUp,
        abs_of_neg (sub_neg.mpr hup)]
      push_cast
      ring
    · have hdown := sub_nonneg.mpr (not_lt.mp hup)
      simp only [Leg.vector, moveLeg, if_neg hup, heading_azimuthDown, abs_of_nonneg hdown]
      push_cast
      ring

/-- A vector along and across the strike is as long as in any other frame. -/
theorem norm_frame (azimuth along across : ℝ) :
    ‖heading azimuth * ⟨along, across⟩‖ = Real.sqrt (along ^ 2 + across ^ 2) := by
  rw [norm_mul, norm_heading, one_mul, Complex.norm_def, Complex.normSq_mk, sq, sq]

/-- Half a diagonal at its angle to the strike has half the length along the strike and
    half the width across. -/
theorem diagonal_eq (hlength : 0 < extent.length) :
    (Scalar.hypot (extent.length / 2.0) (extent.horizontal / 2.0) : ℝ)
        * heading (Scalar.toDegrees
          (Scalar.atan (extent.horizontal / 2.0 / (extent.length / 2.0))))
      = (⟨extent.length / 2, extent.horizontal / 2⟩ : ℂ) := by
  have hhalf : 0 < extent.length / 2 := half_pos hlength
  have hsum : Real.sqrt ((extent.length / 2) ^ 2 + (extent.horizontal / 2) ^ 2)
      = extent.length / 2
        * Real.sqrt (1 + (extent.horizontal / 2 / (extent.length / 2)) ^ 2) := by
    rw [← Real.sqrt_sq hhalf.le, ← Real.sqrt_mul (sq_nonneg _), Real.sqrt_sq hhalf.le]
    congr 1
    field_simp
  have hroot : Real.sqrt (1 + (extent.horizontal / 2 / (extent.length / 2)) ^ 2) ≠ 0 :=
    (Real.sqrt_pos.mpr (by positivity)).ne'
  rw [heading_eq, Exact.toRadians_toDegrees, Exact.half_eq, Exact.half_eq]
  change (Real.sqrt ((extent.length / 2) ^ 2 + (extent.horizontal / 2) ^ 2) : ℂ)
    * ⟨Real.cos (Real.arctan _), Real.sin (Real.arctan _)⟩ = _
  rw [Real.cos_arctan, Real.sin_arctan, hsum, Complex.ext_iff]
  simp only [Complex.mul_re, Complex.mul_im, Complex.ofReal_re, Complex.ofReal_im, zero_mul,
    sub_zero, add_zero]
  constructor <;> field_simp

/-- The legs to the corners in the frame of the strike. -/
theorem legVectors_eq (hlength : 0 < extent.length) :
    (input.placement extent).legs.map Leg.vector =
      [heading input.strike * ⟨-(extent.length / 2), -(extent.horizontal / 2)⟩,
        heading input.strike * ⟨extent.length / 2, -(extent.horizontal / 2)⟩,
        heading input.strike * ⟨extent.length / 2, extent.horizontal / 2⟩,
        heading input.strike * ⟨-(extent.length / 2), extent.horizontal / 2⟩] := by
  have hdiagonal := diagonal_eq extent hlength
  have hmirror := congrArg (starRingEnd ℂ) hdiagonal
  rw [map_mul, Complex.conj_ofReal, ← heading_neg] at hmirror
  have hforward : (⟨extent.length / 2, -(extent.horizontal / 2)⟩ : ℂ)
      = (starRingEnd ℂ) ⟨extent.length / 2, extent.horizontal / 2⟩ := rfl
  have hback : (⟨-(extent.length / 2), -(extent.horizontal / 2)⟩ : ℂ)
      = -⟨extent.length / 2, extent.horizontal / 2⟩ := rfl
  have hturned : (⟨-(extent.length / 2), extent.horizontal / 2⟩ : ℂ)
      = -(starRingEnd ℂ) ⟨extent.length / 2, extent.horizontal / 2⟩ := by
    rw [Complex.ext_iff]
    exact ⟨rfl, (neg_neg _).symm⟩
  rw [hforward, hback, hturned, ← hmirror, ← hdiagonal]
  -- The strike, half a turn and the angle of the diagonal are separate factors.
  simp only [placement, Placement.legs, List.map_cons, List.map_nil, Leg.vector,
    heading_normalizeAzimuth, sub_eq_add_neg, heading_add, heading_back]
  refine congrArg₂ List.cons ?_ (congrArg₂ List.cons ?_ (congrArg₂ List.cons ?_
    (congrArg₂ List.cons ?_ rfl))) <;> ring

/-- The corners in the frame of the strike: those of a rectangle that has slid down the
    dip. -/
theorem offsets_eq (hfits : extent.vertical ≤ input.lower - input.upper)
    (htan : 0 ≤ Real.tan input.dipAngle) (hlength : 0 < extent.length) :
    (input.placement extent).offsets =
      [heading input.strike
          * ⟨-(extent.length / 2), input.slide extent - extent.horizontal / 2⟩,
        heading input.strike * ⟨extent.length / 2, input.slide extent - extent.horizontal / 2⟩,
        heading input.strike * ⟨extent.length / 2, input.slide extent + extent.horizontal / 2⟩,
        heading input.strike
          * ⟨-(extent.length / 2), input.slide extent + extent.horizontal / 2⟩] := by
  have hsum : ∀ along across : ℝ,
      heading input.strike * ⟨0, input.slide extent⟩ + heading input.strike * ⟨along, across⟩
        = heading input.strike * ⟨along, input.slide extent + across⟩ := by
    intro along across
    rw [← mul_add]
    exact congrArg (heading input.strike * ·) (Complex.ext (zero_add along) rfl)
  have hmap : (input.placement extent).offsets
      = ((input.placement extent).legs.map Leg.vector).map
        ((input.placement extent).moveVector + ·) := by
    rw [Placement.offsets, List.map_map]
    rfl
  rw [hmap, legVectors_eq input extent hlength, moveVector_eq input extent hfits htan]
  simp only [List.map_cons, List.map_nil, hsum, sub_eq_add_neg]

/-- No corner is further away than the reach, and one is as far. -/
theorem norm_offsets (hfits : extent.vertical ≤ input.lower - input.upper)
    (htan : 0 ≤ Real.tan input.dipAngle) (hlength : 0 < extent.length)
    (hhorizontal : 0 ≤ extent.horizontal) :
    (∀ offset ∈ (input.placement extent).offsets, ‖offset‖ ≤ input.reach extent) ∧
    ∃ offset ∈ (input.placement extent).offsets, ‖offset‖ = input.reach extent := by
  have hhalf : 0 ≤ extent.horizontal / 2 := div_nonneg hhorizontal zero_le_two
  have habs := abs_nonneg (input.slide extent)
  have hle : ∀ along across : ℝ, along ^ 2 = (extent.length / 2) ^ 2 →
      |across| ≤ extent.horizontal / 2 + |input.slide extent| →
      ‖heading input.strike * ⟨along, across⟩‖ ≤ input.reach extent := by
    intro along across halong hacross
    rw [norm_frame, reach_eq, halong]
    refine Real.sqrt_le_sqrt (add_le_add_right (sq_le_sq.mpr ?_) _)
    rwa [abs_of_nonneg (add_nonneg hhalf habs)]
  have hup : |input.slide extent - extent.horizontal / 2|
      ≤ extent.horizontal / 2 + |input.slide extent| := by
    have htriangle := abs_sub (input.slide extent) (extent.horizontal / 2)
    rw [abs_of_nonneg hhalf] at htriangle
    linarith
  have hdown : |input.slide extent + extent.horizontal / 2|
      ≤ extent.horizontal / 2 + |input.slide extent| := by
    have htriangle := abs_add_le (input.slide extent) (extent.horizontal / 2)
    rw [abs_of_nonneg hhalf] at htriangle
    linarith
  rw [offsets_eq input extent hfits htan hlength]
  constructor
  · simp only [List.forall_mem_cons, List.not_mem_nil, false_imp_iff, implies_true, and_true]
    exact ⟨hle _ _ (neg_sq _) hup, hle _ _ rfl hup, hle _ _ rfl hdown, hle _ _ (neg_sq _) hdown⟩
  -- The corners on the side that the plane slides to are the furthest.
  · rcases le_total 0 (input.slide extent) with hslide | hslide
    · refine ⟨_, List.mem_cons_of_mem _ (List.mem_cons_of_mem _ List.mem_cons_self), ?_⟩
      rw [norm_frame, reach_eq, abs_of_nonneg hslide, add_comm (input.slide extent)]
    · refine ⟨_, List.mem_cons_of_mem _ List.mem_cons_self, ?_⟩
      rw [norm_frame, reach_eq, abs_of_nonpos hslide]
      congr 2
      ring

/-- A circle around the hypocenter holds all corners exactly if it is as wide as the
    reach. -/
theorem offsets_le_iff (hfits : extent.vertical ≤ input.lower - input.upper)
    (htan : 0 ≤ Real.tan input.dipAngle) (hlength : 0 < extent.length)
    (hhorizontal : 0 ≤ extent.horizontal) (radius : ℝ) :
    (∀ offset ∈ (input.placement extent).offsets, ‖offset‖ ≤ radius)
      ↔ input.reach extent ≤ radius := by
  rcases norm_offsets input extent hfits htan hlength hhorizontal with ⟨hall, corner, hcorner, hfar⟩
  constructor
  · intro hheld
    exact hfar.ge.trans (hheld corner hcorner)
  · intro hreach offset hoffset
    exact (hall offset hoffset).trans hreach

/-- Half a diagonal and the slide are always enough. -/
theorem reach_le (hhorizontal : 0 ≤ extent.horizontal) :
    input.reach extent ≤ extent.projectionRadius + |input.slide extent| := by
  have habs := abs_nonneg (input.slide extent)
  have hwidth : extent.horizontal / 2 ≤ extent.projectionRadius := by
    rw [extent.projectionRadius_eq]
    exact Real.le_sqrt_of_sq_le (le_add_of_nonneg_left (sq_nonneg _))
  have hradius : 0 ≤ extent.projectionRadius := (div_nonneg hhorizontal zero_le_two).trans hwidth
  have hsquare : extent.projectionRadius ^ 2
      = (extent.length / 2) ^ 2 + (extent.horizontal / 2) ^ 2 := by
    rw [extent.projectionRadius_eq, Real.sq_sqrt (by positivity)]
  rw [reach_eq, Real.sqrt_le_left (add_nonneg hradius habs)]
  have hproduct := mul_le_mul_of_nonneg_right hwidth habs
  linarith

/-- Half a diagonal is enough exactly if nothing slides. -/
theorem reach_le_projectionRadius_iff (hhorizontal : 0 ≤ extent.horizontal) :
    input.reach extent ≤ extent.projectionRadius ↔ input.slide extent = 0 := by
  have hhalf : 0 ≤ extent.horizontal / 2 := div_nonneg hhorizontal zero_le_two
  have habs := abs_nonneg (input.slide extent)
  rw [reach_eq, extent.projectionRadius_eq, Real.sqrt_le_sqrt_iff (by positivity),
    add_le_add_iff_left, sq_le_sq₀ (add_nonneg hhalf habs) hhalf, add_le_iff_nonpos_right,
    abs_nonpos_iff]

/-- The plane is vertical, or it fits into the layer with its centre at the
    hypocenter. -/
def Rests : Prop :=
  input.dip = 90.0 ∨ input.upper + input.extent.vertical / 2.0 ≤ input.depth ∧
    input.depth ≤ input.lower - input.extent.vertical / 2.0

theorem rests_iff : input.Rests ↔
    input.dip = 90 ∨ input.upper + input.extent.vertical / 2 ≤ input.depth ∧
      input.depth ≤ input.lower - input.extent.vertical / 2 := by
  have hright : (90.0 : ℝ) = 90 := by norm_num
  rw [Rests, Exact.half_eq, hright]

/-- Planes that rest do not slide, and no others. -/
theorem slide_eq_zero_iff (h : input.Admissible) :
    input.slide input.extent = 0 ↔ input.Rests := by
  have hfits := extent_vertical_le h
  have hvertical : Real.tan input.dipAngle = 0 ↔ input.dip = 90 := by
    constructor
    · intro htan
      by_contra hdip
      exact (tan_dipAngle_pos h (lt_of_le_of_ne h.dip_le hdip)).ne' htan
    · intro hdip
      rw [dipAngle_eq, hdip, show (90 : ℝ) * (Real.pi / 180) = Real.pi / 2 by ring,
        Real.tan_pi_div_two]
  have hkept : input.clampedDepth (input.extent.vertical / 2) = input.depth ↔
      input.upper + input.extent.vertical / 2 ≤ input.depth ∧
        input.depth ≤ input.lower - input.extent.vertical / 2 := by
    constructor
    · intro hdepth
      rw [← hdepth]
      exact ⟨le_clampedDepth input _, clampedDepth_le input _ (by linarith)⟩
    · exact fun hin => clampedDepth_of_fits input _ hin.1 hin.2
  rw [slide_eq, div_eq_zero_iff, sub_eq_zero, hvertical, hkept, or_comm, rests_iff]

end RuptureInput

end Seismicity
