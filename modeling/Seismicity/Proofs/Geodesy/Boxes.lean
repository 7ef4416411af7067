import Mathlib.Tactic.FieldSimp
import Mathlib.Tactic.Linarith
import Seismicity.BoundingBox
import Seismicity.Proofs.Exact.Extremes

/-!
# Boxes Around Points

In exact arithmetic, when the box around one point holds the box around another.

The box around a point is the general envelope of a list with one entry: one longitude does
not straddle the date line, and the extremes are the point itself (`aroundPoint_eq`). What
is left are a margin along the parallel, which the cosine of the latitude enlarges, and one
along the meridian. A box more than half a turn wide becomes the globe, and boxes end at
the poles.

The margin along the meridian is limited to a quarter of a turn. That limit is never met:
along the parallel the margin is no smaller, so the box is the globe before
(`vertical_eq`). Two boxes that are not the globe then compare like intervals, edge by
edge (`Reaches`). The globe needs care in one direction only. It holds every latitude, but
a box close to the date line holds longitudes beyond half a turn, and the globe does not.

At a pole itself a parallel has no extent. The formula divides by zero there, which leaves
zero in exact arithmetic, and what is said about that place is said of the formula.

## Main definitions

* `BoundingBox.Reaches`: A box reaches as far as another, edge by edge.
* `BoundingBox.leastMargin`: The least margin for which it does.

## Theorems

* `Geodesy.cos_toRadians_pos`, `Geodesy.le_angularDistance`: Extents along a parallel.
* `aroundPoint_eq`, `aroundPoint_eq_globe_iff`: The box around a point.
* `globe_contains_iff`, `contains_aroundPoint_iff`: What boxes hold.
* `Reaches.contains`: A box that reaches as far as another holds what the other holds.
* `reaches_of_contains`: Otherwise it does not.
* `reaches_iff_leastMargin_le`: How large the margin has to be.
-/

namespace Seismicity

namespace Geodesy

theorem degreesPerKm_pos : (0 : ℝ) < degreesPerKm := by norm_num [degreesPerKm]

/-- Between the poles a parallel has a positive circumference. -/
theorem cos_toRadians_pos {latitude : ℝ} (h : |latitude| < 90) :
    0 < Real.cos (Scalar.toRadians latitude) := by
  have hdegree : 0 < Real.pi / 180 := div_pos Real.pi_pos (by norm_num)
  have hsouth := mul_lt_mul_of_pos_right (abs_lt.mp h).1 hdegree
  have hnorth := mul_lt_mul_of_pos_right (abs_lt.mp h).2 hdegree
  rw [Exact.toRadians_eq]
  exact Real.cos_pos_of_mem_Ioo ⟨by linarith, by linarith⟩

theorem angularDistance_eq (km latitude : ℝ) :
    angularDistance km latitude = km * degreesPerKm / Real.cos (Scalar.toRadians latitude) :=
  rfl

/-- On the equator a distance is as long along the parallel as along a meridian. -/
theorem angularDistance_equator (km : ℝ) {latitude : ℝ} (h : latitude = 0) :
    angularDistance km latitude = km * degreesPerKm := by
  rw [angularDistance_eq, h, Exact.toRadians_eq, zero_mul, Real.cos_zero, div_one]

theorem angularDistanceBetween_self (km latitude : ℝ) :
    angularDistanceBetween km latitude latitude = angularDistance km latitude := by
  have hmean : (latitude + latitude) / 2.0 = latitude := by
    rw [Exact.half_eq, add_self_div_two]
  rw [angularDistanceBetween, hmean]

/-- Along a parallel a distance extends at least as far as along a meridian. -/
theorem le_angularDistance {km latitude : ℝ} (hkm : 0 ≤ km)
    (hcos : 0 < Real.cos (Scalar.toRadians latitude)) :
    km * degreesPerKm ≤ angularDistance km latitude := by
  rw [angularDistance_eq]
  exact le_div_self (mul_nonneg hkm degreesPerKm_pos.le) hcos (Real.cos_le_one _)

/-- One longitude does not straddle the date line. -/
theorem crossesDateLine_singleton (longitude : ℝ) : crossesDateLine [longitude] = false := by
  have hleast : Scalar.least [longitude] = longitude := Exact.least_eq _
  have hgreatest : Scalar.greatest [longitude] = longitude := Exact.greatest_eq _
  have hsquare : ¬ longitude * longitude < 0.0 := by
    rw [Exact.zero_eq]
    exact not_lt.mpr (mul_self_nonneg longitude)
  simp only [crossesDateLine, List.isEmpty_cons, Bool.false_eq_true, if_false, hleast, hgreatest,
    hsquare, decide_false, Bool.false_and]

end Geodesy

namespace BoundingBox

open Geodesy

theorem globe_contains_iff (longitude latitude : ℝ) :
    (globe : BoundingBox ℝ).contains longitude latitude = true ↔
      |longitude| ≤ 180 ∧ |latitude| ≤ 90 := by
  have hhalf : (180.0 : ℝ) = 180 := by norm_num
  have hright : (90.0 : ℝ) = 90 := by norm_num
  simp only [contains, globe, Bool.and_eq_true, decide_eq_true_eq, hhalf, hright, abs_le,
    and_assoc]

/-- The box around a point, without the lists of an envelope. -/
theorem aroundPoint_eq (p : Point ℝ) (margin : ℝ) :
    aroundPoint p margin =
      if 180 < 2 * angularDistance margin p.latitude then globe
      else
        { west := p.longitude - angularDistance margin p.latitude
          south := max (p.latitude - min (margin * degreesPerKm) 90) (-90)
          east := p.longitude + angularDistance margin p.latitude
          north := min (p.latitude + min (margin * degreesPerKm) 90) 90 } := by
  have hleast : ∀ x : ℝ, Scalar.least [x] = x := fun x => Exact.least_eq [x]
  have hgreatest : ∀ x : ℝ, Scalar.greatest [x] = x := fun x => Exact.greatest_eq [x]
  have hwidth : ∀ x : ℝ, x - x + 2.0 * angularDistance margin p.latitude
      = 2 * angularDistance margin p.latitude := by
    intro x
    rw [sub_self, zero_add, Exact.two_eq]
  have hhalf : (180.0 : ℝ) = 180 := by norm_num
  have hright : (90.0 : ℝ) = 90 := by norm_num
  simp only [aroundPoint, around?, List.isEmpty_cons, Bool.false_eq_true, if_false, List.map_cons,
    List.map_nil, unwrapped, crossesDateLine_singleton, hleast, hgreatest,
    angularDistanceBetween_self, hwidth, hhalf, hright, Exact.lesser_eq, Exact.greater_eq]
  by_cases hglobe : 180 < 2 * angularDistance margin p.latitude
  · rw [if_pos hglobe, if_pos hglobe, Option.getD_some]
  · rw [if_neg hglobe, if_neg hglobe, Option.getD_some]

/-- A box is the globe if it would be wider than half a turn. -/
theorem aroundPoint_eq_globe_iff (p : Point ℝ) (margin : ℝ) :
    aroundPoint p margin = globe ↔ 90 < angularDistance margin p.latitude := by
  rw [aroundPoint_eq]
  by_cases hglobe : 180 < 2 * angularDistance margin p.latitude
  · rw [if_pos hglobe]
    exact iff_of_true rfl (by linarith)
  · rw [if_neg hglobe]
    refine iff_of_false (fun h => ?_) (by linarith)
    simp only [globe, mk.injEq] at h
    norm_num at h
    linarith

theorem aroundPoint_ne_globe_iff (p : Point ℝ) (margin : ℝ) :
    aroundPoint p margin ≠ globe ↔ angularDistance margin p.latitude ≤ 90 :=
  (aroundPoint_eq_globe_iff p margin).not.trans not_lt

theorem contains_aroundPoint_iff (p : Point ℝ) (margin : ℝ) (h : aroundPoint p margin ≠ globe)
    (longitude latitude : ℝ) :
    (aroundPoint p margin).contains longitude latitude = true ↔
      |longitude - p.longitude| ≤ angularDistance margin p.latitude ∧
      |latitude - p.latitude| ≤ min (margin * degreesPerKm) 90 ∧ |latitude| ≤ 90 := by
  rw [aroundPoint_ne_globe_iff] at h
  rw [aroundPoint_eq, if_neg (by linarith)]
  generalize min (margin * degreesPerKm) 90 = vertical
  simp only [contains, Bool.and_eq_true, decide_eq_true_eq, max_le_iff, le_min_iff, abs_le]
  constructor
  · rintro ⟨⟨⟨hwest, heast⟩, hsouth, hbottom⟩, hnorth, htop⟩
    exact ⟨⟨by linarith, by linarith⟩, ⟨by linarith, by linarith⟩, hbottom, htop⟩
  · rintro ⟨⟨hwest, heast⟩, ⟨hsouth, hnorth⟩, hbottom, htop⟩
    exact ⟨⟨⟨by linarith, by linarith⟩, by linarith, hbottom⟩, by linarith, htop⟩

/-- The box around a place between the poles holds that place. -/
theorem aroundPoint_contains_self {p : Point ℝ} {margin : ℝ} (hlon : |p.longitude| ≤ 180)
    (hlat : |p.latitude| < 90) (hmargin : 0 ≤ margin) :
    (aroundPoint p margin).contains p.longitude p.latitude = true := by
  by_cases hglobe : aroundPoint p margin = globe
  · rw [hglobe, globe_contains_iff]
    exact ⟨hlon, hlat.le⟩
  · have hvertical := mul_nonneg hmargin degreesPerKm_pos.le
    rw [contains_aroundPoint_iff p margin hglobe, sub_self, sub_self, abs_zero, le_min_iff]
    exact ⟨div_nonneg hvertical (cos_toRadians_pos hlat).le, ⟨hvertical, by norm_num⟩, hlat.le⟩

/-- A box that is not the globe, at a place between the poles, is nowhere cut at a quarter
    of a turn. -/
theorem vertical_eq {p : Point ℝ} {margin : ℝ} (hmargin : 0 ≤ margin)
    (hcos : 0 < Real.cos (Scalar.toRadians p.latitude)) (h : aroundPoint p margin ≠ globe) :
    min (margin * degreesPerKm) 90 = margin * degreesPerKm := by
  rw [aroundPoint_ne_globe_iff] at h
  exact min_eq_left ((le_angularDistance hmargin hcos).trans h)

/-- The box around `q` reaches at least as far as the box around `p`, to the west and east and
    to the north and south, if neither is the globe or cut at a pole. -/
@[mk_iff]
structure Reaches (p q : Point ℝ) (margin margin' : ℝ) : Prop where
  horizontal : |p.longitude - q.longitude| + angularDistance margin p.latitude
    ≤ angularDistance margin' q.latitude
  vertical : |p.latitude - q.latitude| + margin * degreesPerKm ≤ margin' * degreesPerKm

variable {p q : Point ℝ} {margin margin' : ℝ}

theorem angularDistance_pos (hp : |p.latitude| < 90) (hmargin : 0 < margin) :
    0 < angularDistance margin p.latitude :=
  div_pos (mul_pos hmargin degreesPerKm_pos) (cos_toRadians_pos hp)

/-- A box that reaches as far as another holds what the other holds. Longitudes beyond half
    a turn are not on the globe. -/
theorem Reaches.contains (h : Reaches p q margin margin') (hp : |p.latitude| < 90)
    (hmargin : 0 < margin) (hmargin' : 0 ≤ margin') (longitude latitude : ℝ)
    (hglobe : aroundPoint q margin' = globe → |longitude| ≤ 180)
    (hmem : (aroundPoint p margin).contains longitude latitude = true) :
    (aroundPoint q margin').contains longitude latitude = true := by
  have hhorizontal := h.horizontal
  have hvertical := h.vertical
  have hdistance := abs_nonneg (p.longitude - q.longitude)
  by_cases hq : aroundPoint q margin' = globe
  · -- All latitudes are on the globe, and every box ends at the poles.
    rw [hq, globe_contains_iff]
    refine ⟨hglobe hq, ?_⟩
    by_cases hpglobe : aroundPoint p margin = globe
    · rw [hpglobe, globe_contains_iff] at hmem
      exact hmem.2
    · exact ((contains_aroundPoint_iff p margin hpglobe _ _).mp hmem).2.2
  · have hwidth := (aroundPoint_ne_globe_iff q margin').mp hq
    have hpglobe : aroundPoint p margin ≠ globe :=
      (aroundPoint_ne_globe_iff p margin).mpr (by linarith)
    -- The box around the first point is not empty, so neither is the other: the second
    -- point is not at a pole.
    have hcos : 0 < Real.cos (Scalar.toRadians q.latitude) := by
      have hpos := angularDistance_pos hp hmargin
      have hreach : 0 < angularDistance margin' q.latitude := by linarith
      rw [angularDistance_eq] at hreach
      rcases div_pos_iff.mp hreach with ⟨_, hcos⟩ | ⟨hneg, _⟩
      · exact hcos
      · exact absurd hneg (not_lt.mpr (mul_nonneg hmargin' degreesPerKm_pos.le))
    rw [contains_aroundPoint_iff p margin hpglobe,
      vertical_eq hmargin.le (cos_toRadians_pos hp) hpglobe] at hmem
    rw [contains_aroundPoint_iff q margin' hq, vertical_eq hmargin' hcos hq]
    rcases hmem with ⟨hlongitude, hlatitude, hpoles⟩
    refine ⟨?_, ?_, hpoles⟩
    · exact (abs_sub_le longitude p.longitude q.longitude).trans (by linarith)
    · exact (abs_sub_le latitude p.latitude q.latitude).trans (by linarith)

/-- An interval that holds both ends of another reaches as far. -/
theorem abs_sub_add_le {x y r t : ℝ} (hlow : |x - r - y| ≤ t) (hhigh : |x + r - y| ≤ t) :
    |x - y| + r ≤ t := by
  rcases abs_cases (x - y) with ⟨heq, _⟩ | ⟨heq, _⟩
  · have hle := (abs_le.mp hhigh).2
    linarith
  · have hle := (abs_le.mp hlow).1
    linarith

/-- The globe is a whole turn wide, any other box half a turn at most. -/
theorem not_holds_globe (hq : aroundPoint q margin' ≠ globe) :
    ¬ ∀ longitude latitude, (globe : BoundingBox ℝ).contains longitude latitude = true →
      (aroundPoint q margin').contains longitude latitude = true := by
  intro h
  have hwidth := (aroundPoint_ne_globe_iff q margin').mp hq
  have heast := h 180 0 ((globe_contains_iff _ _).mpr (by norm_num))
  have hwest := h (-180) 0 ((globe_contains_iff _ _).mpr (by norm_num))
  rw [contains_aroundPoint_iff q margin' hq] at heast hwest
  have hright := (abs_le.mp heast.1).2
  have hleft := (abs_le.mp hwest.1).1
  linarith

/-- A box that holds what another holds reaches as far, if it is not the globe and the other
    is not cut at a pole. -/
theorem reaches_of_contains (hp : |p.latitude| < 90) (hmargin : 0 < margin)
    (hq : aroundPoint q margin' ≠ globe)
    (hpoles : |p.latitude| + margin * degreesPerKm ≤ 90)
    (h : ∀ longitude latitude, (aroundPoint p margin).contains longitude latitude = true →
      (aroundPoint q margin').contains longitude latitude = true) :
    Reaches p q margin margin' := by
  have hcontains := contains_aroundPoint_iff q margin' hq
  have hpglobe : aroundPoint p margin ≠ globe := by
    intro hglobe
    rw [hglobe] at h
    exact not_holds_globe hq h
  have hvertical := vertical_eq hmargin.le (cos_toRadians_pos hp) hpglobe
  have hreach := angularDistance_pos hp hmargin
  have hrise := mul_pos hmargin degreesPerKm_pos
  have hheld : ∀ longitude latitude,
      |longitude - p.longitude| ≤ angularDistance margin p.latitude →
      |latitude - p.latitude| ≤ margin * degreesPerKm →
      |longitude - q.longitude| ≤ angularDistance margin' q.latitude ∧
        |latitude - q.latitude| ≤ margin' * degreesPerKm := by
    intro longitude latitude hlongitude hlatitude
    have hsplit := abs_sub_abs_le_abs_sub latitude p.latitude
    have hmem := h longitude latitude ((contains_aroundPoint_iff p margin hpglobe _ _).mpr
      ⟨hlongitude, by rw [hvertical]; exact hlatitude, by linarith⟩)
    rw [hcontains] at hmem
    exact ⟨hmem.1, hmem.2.1.trans (min_le_left _ _)⟩
  -- The middles of the four edges.
  have hcenter : ∀ x r : ℝ, 0 < r → |x - r - x| ≤ r ∧ |x + r - x| ≤ r ∧ |x - x| ≤ r := by
    intro x r hr
    rw [sub_sub_cancel_left, add_sub_cancel_left, sub_self, abs_neg, abs_of_pos hr, abs_zero]
    exact ⟨le_refl r, le_refl r, hr.le⟩
  rcases hcenter p.longitude _ hreach with ⟨hwest, heast, hmeridian⟩
  rcases hcenter p.latitude _ hrise with ⟨hsouth, hnorth, hparallel⟩
  exact
    { horizontal := abs_sub_add_le (hheld _ _ hwest hparallel).1 (hheld _ _ heast hparallel).1
      vertical := abs_sub_add_le (hheld _ _ hmeridian hsouth).2 (hheld _ _ hmeridian hnorth).2 }

/-- The least margin with which the box around `q` reaches as far as the one around `p`. -/
noncomputable def leastMargin (p q : Point ℝ) (margin : ℝ) : ℝ :=
  max (Real.cos (Scalar.toRadians q.latitude)
      * (|p.longitude - q.longitude| / degreesPerKm
        + margin / Real.cos (Scalar.toRadians p.latitude)))
    (|p.latitude - q.latitude| / degreesPerKm + margin)

theorem reaches_iff_leastMargin_le (hq : |q.latitude| < 90) :
    Reaches p q margin margin' ↔ leastMargin p q margin ≤ margin' := by
  have hcos := cos_toRadians_pos hq
  have hscale : (0 : ℝ) < degreesPerKm := degreesPerKm_pos
  have hne := hscale.ne'
  have hhorizontal : (|p.longitude - q.longitude| + angularDistance margin p.latitude)
        * Real.cos (Scalar.toRadians q.latitude)
      = Real.cos (Scalar.toRadians q.latitude) * (|p.longitude - q.longitude| / degreesPerKm
        + margin / Real.cos (Scalar.toRadians p.latitude)) * degreesPerKm := by
    rw [angularDistance_eq]
    field_simp
  have hvertical : |p.latitude - q.latitude| + margin * degreesPerKm
      = (|p.latitude - q.latitude| / degreesPerKm + margin) * degreesPerKm := by
    field_simp
  rw [reaches_iff, leastMargin, max_le_iff, angularDistance_eq margin', le_div_iff₀ hcos,
    hhorizontal, hvertical, mul_le_mul_iff_left₀ hscale, mul_le_mul_iff_left₀ hscale]

end BoundingBox

end Seismicity
