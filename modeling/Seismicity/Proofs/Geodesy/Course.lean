import Seismicity.Proofs.Geodesy.Travel

/-!
# The Course Back

In exact arithmetic the azimuth of the point reached by travelling is the azimuth that
was travelled along, except at the start itself and half way around the Earth, where
every azimuth leads to the same point.

The azimuth is found from the longitude and the latitude that were reached, and both
have gone through an angle of their own. The cosine of the latitude is the distance of
the point reached from the axis. Together with the turn in longitude it gives back the
two coordinates across the axis, `outward` and the one to the side, from which the turn
was made (`cos_turn`, `sin_turn`). With these the vector whose angle is taken for the
azimuth comes to the course travelled, scaled by the sine of the arc
(`course_vector`), so its angle is the course up to full turns.

Nothing is divided by the distance from the axis, so no case is needed for a point that
is reached at a pole, where it is zero and the longitude says nothing. The start cannot
be at a pole: its own distance from the axis has to be cancelled.

## Theorems

* `pointAt_longitude_range`, `pointAt_latitude_range`: The ranges of what is reached.
* `cos_turn`, `sin_turn`: The turn in longitude, scaled by the distance from the axis.
* `course_vector`: The course, scaled by the sine of the arc.
* `azimuth_pointAt`: The azimuth of the end is the azimuth travelled along.
* `pointAt_recovered`: Distance and azimuth are both recovered.
-/

namespace Seismicity

namespace Geodesy

/-- The longitude reached is in `[-180, 180)`. -/
theorem pointAt_longitude_range (lon lat bearing d : ℝ) :
    -180 ≤ (pointAt lon lat bearing d).1 ∧ (pointAt lon lat bearing d).1 < 180 := by
  have hpi := Real.pi_pos
  have hturn : (0 : ℝ) < 2.0 * Real.pi := by positivity
  have hlongitude : ∃ x : ℝ, (pointAt lon lat bearing d).1
      = (Exact.remainder x (2.0 * Real.pi) - Real.pi) * (180 / Real.pi) :=
    ⟨_, Exact.toDegrees_eq _⟩
  rcases hlongitude with ⟨x, hx⟩
  have hlow := Exact.remainder_nonneg x hturn
  have hhigh := Exact.remainder_lt x hturn
  rw [Exact.two_eq] at hlow hhigh hx
  rw [hx, mul_div_assoc', le_div_iff₀ hpi, div_lt_iff₀ hpi]
  constructor <;> nlinarith

/-- The latitude reached is in `[-90, 90]`. -/
theorem pointAt_latitude_range (lon lat bearing d : ℝ) :
    -90 ≤ (pointAt lon lat bearing d).2 ∧ (pointAt lon lat bearing d).2 ≤ 90 := by
  have hpi := Real.pi_pos
  have hlatitude : ∃ x : ℝ, (pointAt lon lat bearing d).2
      = Real.arcsin x * (180 / Real.pi) := ⟨_, Exact.toDegrees_eq _⟩
  rcases hlatitude with ⟨x, hx⟩
  have hlow := Real.neg_pi_div_two_le_arcsin x
  have hhigh := Real.arcsin_le_pi_div_two x
  rw [hx, mul_div_assoc', le_div_iff₀ hpi, div_le_iff₀ hpi]
  constructor <;> linarith

/-- The turn in longitude, scaled by the distance of the point reached from the axis, leads
    as far outward as the point lies. -/
theorem cos_turn (lat course arc : ℝ) (hlat : 0 < Real.cos lat) :
    Real.cos (Real.arcsin (sinReached lat course arc)) * Real.cos (reached lat course arc).arg
      = outward lat course arc := by
  have hre : (reached lat course arc).re = Real.cos lat * outward lat course arc := by
    rw [reached_eq]
  have hpolar := Complex.norm_mul_cos_arg (reached lat course arc)
  rw [norm_reached lat course arc hlat.le, hre, mul_assoc] at hpolar
  rw [Real.cos_arcsin]
  exact mul_left_cancel₀ hlat.ne' hpolar

/-- And it leads as far to the side. -/
theorem sin_turn (lat course arc : ℝ) (hlat : 0 < Real.cos lat) :
    Real.cos (Real.arcsin (sinReached lat course arc)) * Real.sin (reached lat course arc).arg
      = Real.sin course * Real.sin arc := by
  have him : (reached lat course arc).im = Real.cos lat * (Real.sin course * Real.sin arc) := by
    rw [reached_eq]
  have hpolar := Complex.norm_mul_sin_arg (reached lat course arc)
  rw [norm_reached lat course arc hlat.le, him, mul_assoc] at hpolar
  rw [Real.cos_arcsin]
  exact mul_left_cancel₀ hlat.ne' hpolar

/-- The vector whose angle is taken for the azimuth is the course travelled, scaled by the
    sine of the arc. -/
theorem course_vector (lat course arc : ℝ) (hlat : 0 < Real.cos lat) :
    (⟨Real.cos lat * Real.sin (Real.arcsin (sinReached lat course arc))
        - Real.sin lat * Real.cos (Real.arcsin (sinReached lat course arc))
          * Real.cos (reached lat course arc).arg,
      Real.sin (reached lat course arc).arg
        * Real.cos (Real.arcsin (sinReached lat course arc))⟩ : ℂ)
      = (Real.sin arc : ℝ) * (Complex.cos course + Complex.sin course * Complex.I) := by
  have hbound := abs_le.mp (abs_sinReached_le lat course arc)
  have hpole := Real.sin_sq_add_cos_sq lat
  have hoff : Real.sin lat * Real.cos (Real.arcsin (sinReached lat course arc))
      * Real.cos (reached lat course arc).arg = Real.sin lat * outward lat course arc := by
    rw [mul_assoc, cos_turn lat course arc hlat]
  rw [hoff, mul_comm (Real.sin (reached lat course arc).arg), sin_turn lat course arc hlat,
    Real.sin_arcsin hbound.1 hbound.2, ← Complex.ofReal_cos, ← Complex.ofReal_sin,
    ← Complex.mk_eq_add_mul_I, Complex.ext_iff, Complex.re_ofReal_mul, Complex.im_ofReal_mul]
  constructor
  · change Real.cos lat * sinReached lat course arc - Real.sin lat * outward lat course arc
      = Real.sin arc * Real.cos course
    rw [sinReached, outward]
    linear_combination Real.sin arc * Real.cos course * hpole
  · exact mul_comm _ _

/-- The azimuth of one point from another, from the turn in longitude between them and the
    latitude of the other. Full turns in longitude do not count. -/
theorem azimuth_eq (lon₁ lat₁ lon₂ lat₂ turn : ℝ) (n : ℤ)
    (hturn : Scalar.toRadians lon₁ - Scalar.toRadians lon₂ = turn + n * (2 * Real.pi)) :
    azimuth lon₁ lat₁ lon₂ lat₂ = Exact.remainder (360 - Scalar.toDegrees
      (Complex.arg ⟨Real.cos (Scalar.toRadians lat₁) * Real.sin (Scalar.toRadians lat₂)
          - Real.sin (Scalar.toRadians lat₁) * Real.cos (Scalar.toRadians lat₂) * Real.cos turn,
        Real.sin turn * Real.cos (Scalar.toRadians lat₂)⟩)) 360 := by
  have hfull : (360.0 : ℝ) = 360 := by norm_num
  have hsin : Real.sin turn = Real.sin (Scalar.toRadians lon₁ - Scalar.toRadians lon₂) := by
    rw [hturn, Real.sin_add_int_mul_two_pi]
  have hcos : Real.cos turn = Real.cos (Scalar.toRadians lon₁ - Scalar.toRadians lon₂) := by
    rw [hturn, Real.cos_add_int_mul_two_pi]
  rw [hsin, hcos, ← hfull]
  rfl

/-- The course travelled, as the angle of its vector. -/
theorem arg_course (arc course : ℝ) (hpos : 0 < Real.sin arc) : ∃ n : ℤ,
    Complex.arg ((Real.sin arc : ℝ) * (Complex.cos course + Complex.sin course * Complex.I))
      = course - n * (2 * Real.pi) := by
  refine ⟨toIocDiv Real.two_pi_pos (-Real.pi) course, ?_⟩
  rw [Complex.arg_mul_cos_add_sin_mul_I_eq_toIocMod hpos, toIocMod, zsmul_eq_mul]

/-- Short of half way around the Earth, the azimuth of the end is the azimuth travelled
    along. -/
theorem azimuth_pointAt (lon lat bearing d : ℝ) (hlow : -90 < lat) (hhigh : lat < 90)
    (hpos : 0 < d) (hlt : d < Real.pi * 6371) :
    azimuth lon lat (pointAt lon lat bearing d).1 (pointAt lon lat bearing d).2
      = normalizeAzimuth bearing := by
  have hpi := Real.pi_pos
  have hfull : (360.0 : ℝ) = 360 := by norm_num
  have hcos : 0 < Real.cos (Scalar.toRadians lat) := by
    rw [Exact.toRadians_eq]
    refine Real.cos_pos_of_mem_Ioo ⟨?_, ?_⟩ <;> nlinarith
  have hsin : 0 < Real.sin (d / 6371) :=
    Real.sin_pos_of_pos_of_lt_pi (by positivity) ((div_lt_iff₀ (by norm_num)).mpr hlt)
  rcases pointAt_longitude lon lat bearing d with ⟨n, hlon⟩
  rcases arg_course (d / 6371) (Scalar.toRadians (360 - bearing)) hsin with ⟨m, harg⟩
  have hturn : Scalar.toRadians lon - Scalar.toRadians (pointAt lon lat bearing d).1
      = (reached (Scalar.toRadians lat) (Scalar.toRadians (360 - bearing)) (d / 6371)).arg
        + n * (2 * Real.pi) := by
    rw [hlon]
    ring
  -- The course is measured against the azimuth, and so is what is read off its vector.
  have hback : 360 - Scalar.toDegrees (Scalar.toRadians (360 - bearing) - m * (2 * Real.pi))
      = bearing + m * 360 := by
    rw [Exact.toDegrees_eq, Exact.toRadians_eq]
    field_simp
    ring
  rw [azimuth_eq _ _ _ _ _ n hturn, pointAt_latitude, course_vector _ _ _ hcos, harg, hback,
    Exact.remainder_add_int_mul bearing m (by norm_num), ← hfull]
  rfl

/-- The way to a point that is reached by travelling is the way that was travelled.

    From a point that is no pole, with any azimuth and over any distance up to half way
    around the Earth, a point of the globe is reached: its longitude is in `[-180, 180)` and
    its latitude in `[-90, 90]`. The distance to it is the distance travelled. Except over
    no distance at all and all the way, its azimuth is, modulo 360, the azimuth travelled
    along. -/
theorem pointAt_recovered (lon lat bearing d : ℝ) (hlow : -90 < lat) (hhigh : lat < 90)
    (hnonneg : 0 ≤ d) (hle : d ≤ Real.pi * earthRadius) :
    (-180 ≤ (pointAt lon lat bearing d).1 ∧ (pointAt lon lat bearing d).1 < 180) ∧
    (-90 ≤ (pointAt lon lat bearing d).2 ∧ (pointAt lon lat bearing d).2 ≤ 90) ∧
    distance lon lat (pointAt lon lat bearing d).1 (pointAt lon lat bearing d).2 = d ∧
    (0 < d → d < Real.pi * earthRadius →
      azimuth lon lat (pointAt lon lat bearing d).1 (pointAt lon lat bearing d).2
          = normalizeAzimuth bearing ∧
        ∃ n : ℤ, azimuth lon lat (pointAt lon lat bearing d).1 (pointAt lon lat bearing d).2
          = bearing - n * 360) := by
  rw [earthRadius_eq] at hle
  refine ⟨pointAt_longitude_range lon lat bearing d, pointAt_latitude_range lon lat bearing d,
    distance_pointAt lon lat bearing d hlow.le hhigh.le hnonneg hle, fun hpos hlt => ?_⟩
  rw [earthRadius_eq] at hlt
  have hazimuth := azimuth_pointAt lon lat bearing d hlow hhigh hpos hlt
  refine ⟨hazimuth, ?_⟩
  rcases Exact.exists_remainder_eq bearing 360.0 with ⟨n, hn⟩
  have hfull : |(360.0 : ℝ)| = 360 := by norm_num
  rw [hfull] at hn
  exact ⟨n, hazimuth.trans hn⟩

/-- From the date line, 1000 km along an azimuth of a full turn and a half: the way leads
    south. -/
theorem pointAt_recovered_south :
    distance 180 45 (pointAt 180 45 540 1000).1 (pointAt 180 45 540 (1000 : ℝ)).2 = 1000 ∧
    azimuth 180 45 (pointAt 180 45 540 1000).1 (pointAt 180 45 540 (1000 : ℝ)).2 = 180 := by
  have hpi := Real.two_le_pi
  have hradius : (1000 : ℝ) < Real.pi * earthRadius := by
    rw [earthRadius_eq]
    linarith
  rcases pointAt_recovered 180 45 540 1000 (by norm_num) (by norm_num) (by norm_num) hradius.le with
    ⟨_, _, hdistance, hazimuth⟩
  refine ⟨hdistance, (hazimuth (by norm_num) hradius).1.trans ?_⟩
  have hrest : (540 : ℝ) = 180 + (1 : ℤ) * 360.0 := by norm_num
  have hsouth : Exact.remainder 180 360.0 = 180 := by
    have hfloor : ⌊(180 : ℝ) / |360.0|⌋ = 0 := by
      rw [Int.floor_eq_zero_iff]
      constructor <;> norm_num
    rw [Exact.remainder, hfloor, Int.cast_zero, mul_zero, sub_zero]
  rw [hrest]
  exact (Exact.remainder_add_int_mul 180 1 (by norm_num)).trans hsouth

end Geodesy

end Seismicity
