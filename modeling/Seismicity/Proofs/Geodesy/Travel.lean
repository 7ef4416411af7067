import Mathlib.Tactic.LinearCombination
import Seismicity.Geodesy
import Seismicity.Proofs.Exact.Real

/-!
# Travelling Along Great Circles

In exact arithmetic the distance to the point reached by travelling is the
distance travelled, up to half way around the Earth.

The point reached is described in the frame of the start: `outward` is how far
it lies from the axis of the Earth along the meridian of the start, `sinReached`
how far along the axis, and the rest is to the side. The three are the
coordinates of a point on the unit sphere (`sinReached_sq_add`). The longitude is
found from the first and the last, both multiplied by the cosine of the
latitude at the start, and `cos_mul_cos_mul_cos_arg` undoes this without asking
whether that cosine is zero, so the poles need no case of their own.

Latitudes beyond the poles are left out. There the cosine is negative, the
longitude is that of the opposite meridian, and the point reached is another.

## Main definitions

* `Geodesy.sinReached`, `Geodesy.outward`, `Geodesy.reached`: The point reached.

## Theorems

* `pointAt_longitude`, `pointAt_latitude`: The point reached, in radians.
* `sinReached_sq_add`: The point reached is on the unit sphere.
* `cos_angle_reached`: The angle between start and end is the arc travelled.
* `distance_of_cos_angle`: The distance, from the cosine of the angle.
* `distance_pointAt`: The distance to the end is the distance travelled.
-/

namespace Seismicity

namespace Geodesy

theorem earthRadius_eq : (earthRadius : ℝ) = 6371 := by norm_num [earthRadius]

/-- The sine of the latitude reached from a latitude over an arc. -/
noncomputable def sinReached (lat course arc : ℝ) : ℝ :=
  Real.sin lat * Real.cos arc + Real.cos lat * Real.sin arc * Real.cos course

/-- How far the point reached is from the axis, in the direction of the start. -/
noncomputable def outward (lat course arc : ℝ) : ℝ :=
  Real.cos lat * Real.cos arc - Real.sin lat * Real.sin arc * Real.cos course

/-- The vector from whose angle the longitude is found. -/
noncomputable def reached (lat course arc : ℝ) : ℂ :=
  ⟨Real.cos arc - Real.sin lat * sinReached lat course arc,
    Real.sin course * Real.sin arc * Real.cos lat⟩

theorem sinReached_sq_add (lat course arc : ℝ) :
    sinReached lat course arc ^ 2 + outward lat course arc ^ 2
      + (Real.sin course * Real.sin arc) ^ 2 = 1 := by
  have hlat := Real.sin_sq_add_cos_sq lat
  have hcourse := Real.sin_sq_add_cos_sq course
  have harc := Real.sin_sq_add_cos_sq arc
  rw [sinReached, outward]
  linear_combination
    (Real.cos arc ^ 2 + Real.sin arc ^ 2 * Real.cos course ^ 2) * hlat
      + Real.sin arc ^ 2 * hcourse + harc

theorem abs_sinReached_le (lat course arc : ℝ) : |sinReached lat course arc| ≤ 1 := by
  have hsphere := sinReached_sq_add lat course arc
  have houtward := sq_nonneg (outward lat course arc)
  have hside := sq_nonneg (Real.sin course * Real.sin arc)
  rw [← sq_le_one_iff_abs_le_one]
  linarith

theorem reached_eq (lat course arc : ℝ) :
    reached lat course arc
      = ⟨Real.cos lat * outward lat course arc,
          Real.cos lat * (Real.sin course * Real.sin arc)⟩ := by
  have hlat := Real.sin_sq_add_cos_sq lat
  rw [reached, Complex.mk.injEq, sinReached, outward]
  constructor
  · linear_combination -Real.cos arc * hlat
  · ring

theorem norm_reached (lat course arc : ℝ) (hlat : 0 ≤ Real.cos lat) :
    ‖reached lat course arc‖
      = Real.cos lat * Real.sqrt (1 - sinReached lat course arc ^ 2) := by
  have hsphere := sinReached_sq_add lat course arc
  have hsq : Complex.normSq (reached lat course arc)
      = Real.cos lat ^ 2 * (1 - sinReached lat course arc ^ 2) := by
    rw [reached_eq, Complex.normSq_mk]
    linear_combination Real.cos lat ^ 2 * hsphere
  rw [Complex.norm_def, hsq, Real.sqrt_mul (sq_nonneg _), Real.sqrt_sq hlat]

/-- What the angle of a vector gives, multiplied by its length, is the vector's
    own component, also for the zero vector. -/
theorem cos_mul_cos_mul_cos_arg (lat course arc : ℝ) (hlat : 0 ≤ Real.cos lat) :
    Real.cos lat * Real.cos (Real.arcsin (sinReached lat course arc))
        * Real.cos (reached lat course arc).arg
      = Real.cos arc - Real.sin lat * sinReached lat course arc := by
  rw [Real.cos_arcsin, ← norm_reached lat course arc hlat, Complex.norm_mul_cos_arg]
  rfl

/-- The angle between the start and the point reached is the arc travelled. -/
theorem cos_angle_reached (lat course arc : ℝ) (hlat : 0 ≤ Real.cos lat) :
    Real.sin lat * Real.sin (Real.arcsin (sinReached lat course arc))
      + Real.cos lat * Real.cos (Real.arcsin (sinReached lat course arc))
        * Real.cos (reached lat course arc).arg = Real.cos arc := by
  have hbound := abs_le.mp (abs_sinReached_le lat course arc)
  rw [Real.sin_arcsin hbound.1 hbound.2, cos_mul_cos_mul_cos_arg lat course arc hlat]
  ring

/-- The latitude reached. -/
theorem pointAt_latitude (lon lat azimuth d : ℝ) :
    Scalar.toRadians (pointAt lon lat azimuth d).2
      = Real.arcsin (sinReached (Scalar.toRadians lat) (Scalar.toRadians (360 - azimuth))
          (d / 6371)) := by
  have hturn : (360.0 : ℝ) = 360 := by norm_num
  have hbound := abs_le.mp (abs_sinReached_le (Scalar.toRadians lat)
    (Scalar.toRadians (360 - azimuth)) (d / 6371))
  rw [← Exact.clampUnit_eq_self _ hbound.1 hbound.2, ← hturn, ← earthRadius_eq]
  exact Exact.toRadians_toDegrees _

/-- The longitude reached, up to whole turns. -/
theorem pointAt_longitude (lon lat azimuth d : ℝ) : ∃ n : ℤ,
    Scalar.toRadians (pointAt lon lat azimuth d).1
      = Scalar.toRadians lon
        - (reached (Scalar.toRadians lat) (Scalar.toRadians (360 - azimuth)) (d / 6371)).arg
        - n * (2 * Real.pi) := by
  have hturn : (360.0 : ℝ) = 360 := by norm_num
  have htwo : |(2.0 : ℝ) * Real.pi| = 2 * Real.pi := by
    rw [Exact.two_eq, abs_of_pos (mul_pos two_pos Real.pi_pos)]
  rcases Exact.exists_remainder_eq (Scalar.toRadians lon
    - (reached (Scalar.toRadians lat) (Scalar.toRadians (360 - azimuth)) (d / 6371)).arg + Real.pi)
    (2.0 * Real.pi) with ⟨n, hn⟩
  refine ⟨n, ?_⟩
  rw [← hturn, ← earthRadius_eq] at hn ⊢
  refine (Exact.toRadians_toDegrees _).trans ((congrArg (· - Real.pi) hn).trans ?_)
  rw [htwo]
  ring

theorem sq_sin_half (x : ℝ) : Real.sin (x / 2) ^ 2 = 1 / 2 - Real.cos x / 2 := by
  rw [Real.sin_sq_eq_half_sub, mul_div_cancel₀ x two_ne_zero]

/-- The distance, from the cosine of the angle between two points. -/
theorem distance_of_cos_angle (lon₁ lat₁ lon₂ lat₂ angle : ℝ) (hnonneg : 0 ≤ angle)
    (hle : angle ≤ Real.pi)
    (hcos : Real.sin (Scalar.toRadians lat₁) * Real.sin (Scalar.toRadians lat₂)
      + Real.cos (Scalar.toRadians lat₁) * Real.cos (Scalar.toRadians lat₂)
        * Real.cos (Scalar.toRadians lon₁ - Scalar.toRadians lon₂) = Real.cos angle) :
    distance lon₁ lat₁ lon₂ lat₂ = 6371 * angle := by
  have hpi := Real.pi_pos
  have hhalf : 0 ≤ Real.sin (angle / 2) :=
    Real.sin_nonneg_of_nonneg_of_le_pi (by linarith) (by linarith)
  -- The haversine of the angle, which the formula sums up from those of the
  -- differences in latitude and longitude.
  have hchord : Real.sin ((Scalar.toRadians lat₁ - Scalar.toRadians lat₂) / 2) ^ 2
      + Real.cos (Scalar.toRadians lat₁) * Real.cos (Scalar.toRadians lat₂)
        * Real.sin ((Scalar.toRadians lon₁ - Scalar.toRadians lon₂) / 2) ^ 2
      = Real.sin (angle / 2) ^ 2 := by
    rw [sq_sin_half, sq_sin_half, sq_sin_half, Real.cos_sub (Scalar.toRadians lat₁)]
    linear_combination -hcos / 2
  have hformula : distance lon₁ lat₁ lon₂ lat₂
      = 2 * 6371 * Real.arcsin (min (Real.sqrt
          (Real.sin ((Scalar.toRadians lat₁ - Scalar.toRadians lat₂) / 2) ^ 2
            + Real.cos (Scalar.toRadians lat₁) * Real.cos (Scalar.toRadians lat₂)
              * Real.sin ((Scalar.toRadians lon₁ - Scalar.toRadians lon₂) / 2) ^ 2)) 1) := by
    rw [← Exact.lesser_eq, sq, sq, ← Exact.two_eq, ← Exact.one_eq, ← earthRadius_eq]
    rfl
  rw [hformula, hchord, Real.sqrt_sq hhalf, min_eq_left (Real.sin_le_one _),
    Real.arcsin_sin (by linarith) (by linarith)]
  ring

/-- Travelling up to half way around the Earth, the distance to the end is the
    distance travelled. -/
theorem distance_pointAt (lon lat azimuth d : ℝ) (hlow : -90 ≤ lat) (hhigh : lat ≤ 90)
    (hnonneg : 0 ≤ d) (hle : d ≤ Real.pi * 6371) :
    distance lon lat (pointAt lon lat azimuth d).1 (pointAt lon lat azimuth d).2 = d := by
  have hpi := Real.pi_pos
  have hcos : 0 ≤ Real.cos (Scalar.toRadians lat) := by
    rw [Exact.toRadians_eq]
    refine Real.cos_nonneg_of_neg_pi_div_two_le_of_le ?_ ?_ <;> nlinarith
  have hangle := cos_angle_reached (Scalar.toRadians lat) (Scalar.toRadians (360 - azimuth))
    (d / 6371) hcos
  rcases pointAt_longitude lon lat azimuth d with ⟨n, hlon⟩
  rw [distance_of_cos_angle _ _ _ _ (d / 6371) (by positivity)
    ((div_le_iff₀ (by norm_num)).mpr hle)]
  · ring
  · have hturns : Scalar.toRadians lon - Scalar.toRadians (pointAt lon lat azimuth d).1
        = (reached (Scalar.toRadians lat) (Scalar.toRadians (360 - azimuth)) (d / 6371)).arg
          + n * (2 * Real.pi) := by
      rw [hlon]
      ring
    rw [pointAt_latitude, hturns, Real.cos_add_int_mul_two_pi]
    exact hangle

end Geodesy

end Seismicity
