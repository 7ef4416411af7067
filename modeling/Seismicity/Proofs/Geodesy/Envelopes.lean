import Seismicity.Proofs.Geodesy.Boxes

/-!
# Envelopes of Points

In exact arithmetic, the box around any number of points: what it looks like, what it holds,
and how it grows with the margin.

The box is made in two steps that have little to do with each other. First the points are
enclosed (`hull`). This is the only step that looks at the date line: longitudes on both
sides of it are brought into one full turn, which moves each of them by whole turns or not at
all (`exists_measured_eq`). Then the hull is enlarged by two margins (`enlarged`), one along
the parallel and one along the meridian, and this step knows nothing of the points. So what
the enlarged box covers, and that it covers more with greater margins, are facts about one
box and four numbers.

Whether a place is covered is asked modulo a full turn (`Covers`). The globe covers every
place (`globe_covers`), so that where a box becomes the globe nothing is lost, on either side
of the step at half a turn.

The extremes of a list do not depend on its order, and nothing else of the list is used.

## Main definitions

* `BoundingBox.hull`, `BoundingBox.enlarged`: The two steps.
* `BoundingBox.rise`, `BoundingBox.sweep`: The margins along the meridian and the parallel.
* `BoundingBox.Covers`: A box holds a place, modulo full turns.
* `BoundingBox.Proper`: The edges of a box are in order.
* `BoundingBox.OnGlobe`: Points that have an envelope.

## Theorems

* `around?_eq`: The box around points, in two steps.
* `hull_holds`, `hull_proper`: The hull of points.
* `globe_covers`, `enlarged_contains`, `enlarged_covers`, `enlarged_mono`, `enlarged_proper`:
  Enlarged boxes.
* `sweep_mono`, `rise_mono`: The margins grow with the distance.
* `around?_eq_of_perm`: The order of the points does not matter.
* `envelope_grows`: The box around points.
* `envelope_grows_straddling`: Points on both sides of the date line.
-/

namespace Seismicity

namespace Geodesy

/-- Two longitudes or more straddle the date line if they say so; none do not. -/
theorem crossesDateLine_iff {longitudes : List ℝ} (hne : longitudes ≠ []) :
    crossesDateLine longitudes = true ↔
      Scalar.least longitudes * Scalar.greatest longitudes < 0 ∧
        180 < |Scalar.least longitudes - Scalar.greatest longitudes| := by
  have hempty : longitudes.isEmpty = false := List.isEmpty_eq_false_iff.mpr hne
  have hhalf : (180.0 : ℝ) = 180 := by norm_num
  simp only [crossesDateLine, hempty, Bool.false_eq_true, if_false, Bool.and_eq_true,
    decide_eq_true_eq, Exact.zero_eq, hhalf]
  rfl

theorem crossesDateLine_eq_of_perm {xs ys : List ℝ} (h : xs.Perm ys) :
    crossesDateLine xs = crossesDateLine ys := by
  have hempty : xs.isEmpty = ys.isEmpty := h.isEmpty_eq
  rw [crossesDateLine, crossesDateLine, hempty, Exact.least_eq_of_perm h,
    Exact.greatest_eq_of_perm h]

end Geodesy

namespace BoundingBox

open Geodesy

/-- The box holds a place, with its longitude taken modulo full turns. -/
def Covers (box : BoundingBox ℝ) (longitude latitude : ℝ) : Prop :=
  ∃ n : ℤ, box.contains (longitude + n * 360) latitude = true

/-- The edges of a box are in order and on the globe, and only the globe is wider than half a
    turn. -/
structure Proper (box : BoundingBox ℝ) : Prop where
  west_le_east : box.west ≤ box.east
  southPole : -90 ≤ box.south
  south_le_north : box.south ≤ box.north
  northPole : box.north ≤ 90
  width : box = globe ∨ box.east - box.west ≤ 180

theorem contains_iff (box : BoundingBox ℝ) (longitude latitude : ℝ) :
    box.contains longitude latitude = true ↔
      (box.west ≤ longitude ∧ longitude ≤ box.east) ∧
        box.south ≤ latitude ∧ latitude ≤ box.north := by
  simp only [contains, Bool.and_eq_true, decide_eq_true_eq, and_assoc]

/-- There are no latitudes beyond the poles in a proper box. -/
theorem Proper.latitude {box : BoundingBox ℝ} (h : box.Proper) {longitude latitude : ℝ}
    (hcovers : box.Covers longitude latitude) : |latitude| ≤ 90 := by
  rcases hcovers with ⟨n, hn⟩
  rw [contains_iff] at hn
  exact abs_le.mpr ⟨h.southPole.trans hn.2.1, hn.2.2.trans h.northPole⟩

/-- On the globe every place is covered. -/
theorem globe_covers (longitude : ℝ) {latitude : ℝ} (h : |latitude| ≤ 90) :
    (globe : BoundingBox ℝ).Covers longitude latitude := by
  have hturn : (0 : ℝ) < 360 := by norm_num
  have hlow := Exact.remainder_nonneg (longitude + 180) hturn
  have hhigh := Exact.remainder_lt (longitude + 180) hturn
  rcases Exact.exists_remainder_eq (longitude + 180) 360 with ⟨n, hn⟩
  rw [hn, abs_of_pos hturn] at hlow hhigh
  refine ⟨-n, ?_⟩
  rw [globe_contains_iff, abs_le, Int.cast_neg]
  exact ⟨⟨by linarith, by linarith⟩, h⟩

theorem globe_proper : (globe : BoundingBox ℝ).Proper := by
  constructor <;> norm_num [globe]

section Enlarged

/-- A box enlarged by a margin along the parallel and one along the meridian. If it would be
    wider than half a turn it becomes the globe. -/
noncomputable def enlarged (box : BoundingBox ℝ) (horizontal vertical : ℝ) : BoundingBox ℝ :=
  if 180.0 < box.east - box.west + 2.0 * horizontal then globe
  else
    { west := box.west - horizontal
      south := max (box.south - vertical) (-90.0)
      east := box.east + horizontal
      north := min (box.north + vertical) 90.0 }

variable {box : BoundingBox ℝ} {horizontal vertical : ℝ}

theorem enlarged_eq (box : BoundingBox ℝ) (horizontal vertical : ℝ) :
    box.enlarged horizontal vertical =
      if 180 < box.east - box.west + 2 * horizontal then globe
      else
        { west := box.west - horizontal
          south := max (box.south - vertical) (-90)
          east := box.east + horizontal
          north := min (box.north + vertical) 90 } := by
  have hhalf : (180.0 : ℝ) = 180 := by norm_num
  have hright : (90.0 : ℝ) = 90 := by norm_num
  simp only [enlarged, hhalf, hright, Exact.two_eq]

/-- What is within the margins of a place in the box is in the enlarged one, as it is, unless
    that is the globe. -/
theorem enlarged_contains {x y longitude latitude : ℝ} (hheld : box.contains x y = true)
    (hlongitude : |longitude - x| ≤ horizontal) (hlatitude : |latitude - y| ≤ vertical)
    (hpoles : |latitude| ≤ 90) :
    box.enlarged horizontal vertical = globe ∨
      (box.enlarged horizontal vertical).contains longitude latitude = true := by
  rw [enlarged_eq]
  by_cases hglobe : 180 < box.east - box.west + 2 * horizontal
  · exact .inl (if_pos hglobe)
  · refine .inr ?_
    rw [contains_iff] at hheld
    rw [abs_le] at hlongitude hlatitude hpoles
    rw [if_neg hglobe, contains_iff, max_le_iff, le_min_iff]
    rcases hheld with ⟨⟨hwest, heast⟩, hsouth, hnorth⟩
    exact ⟨⟨by linarith, by linarith⟩, ⟨by linarith, hpoles.1⟩, by linarith, hpoles.2⟩

theorem Covers.of_contains {longitude latitude : ℝ}
    (h : box.contains longitude latitude = true) : box.Covers longitude latitude := by
  refine ⟨0, ?_⟩
  rw [Int.cast_zero, zero_mul, add_zero]
  exact h

/-- What is within the margins of a place in the box is covered. -/
theorem enlarged_covers {x y longitude latitude : ℝ} (hheld : box.contains x y = true)
    (hlongitude : |longitude - x| ≤ horizontal) (hlatitude : |latitude - y| ≤ vertical)
    (hpoles : |latitude| ≤ 90) : (box.enlarged horizontal vertical).Covers longitude latitude := by
  rcases enlarged_contains hheld hlongitude hlatitude hpoles with hglobe | hcontains
  · rw [hglobe]
    exact globe_covers longitude hpoles
  · exact .of_contains hcontains

/-- With greater margins more is covered. -/
theorem enlarged_mono {horizontal' vertical' : ℝ} (hhorizontal : horizontal ≤ horizontal')
    (hvertical : vertical ≤ vertical') (hproper : (box.enlarged horizontal vertical).Proper)
    {longitude latitude : ℝ}
    (hcovers : (box.enlarged horizontal vertical).Covers longitude latitude) :
    (box.enlarged horizontal' vertical').Covers longitude latitude := by
  by_cases hglobe : 180 < box.east - box.west + 2 * horizontal'
  · rw [enlarged_eq, if_pos hglobe]
    exact globe_covers longitude (hproper.latitude hcovers)
  · -- The lesser box is not the globe either, so its edges lie within those of the other.
    have hlesser : ¬ 180 < box.east - box.west + 2 * horizontal := by linarith
    rw [enlarged_eq, if_neg hlesser] at hcovers
    rw [enlarged_eq, if_neg hglobe]
    rcases hcovers with ⟨n, hn⟩
    refine ⟨n, ?_⟩
    simp only [contains_iff, max_le_iff, le_min_iff] at hn ⊢
    rcases hn with ⟨⟨hwest, heast⟩, ⟨hsouth, hbottom⟩, hnorth, htop⟩
    exact ⟨⟨by linarith, by linarith⟩, ⟨by linarith, hbottom⟩, by linarith, htop⟩

theorem enlarged_proper (hwidth : box.west ≤ box.east) (hsouth : -90 ≤ box.south)
    (hheight : box.south ≤ box.north) (hnorth : box.north ≤ 90) (hhorizontal : 0 ≤ horizontal)
    (hvertical : 0 ≤ vertical) : (box.enlarged horizontal vertical).Proper := by
  rw [enlarged_eq]
  by_cases hglobe : 180 < box.east - box.west + 2 * horizontal
  · rw [if_pos hglobe]
    exact globe_proper
  · rw [if_neg hglobe]
    exact
      { west_le_east := by linarith
        southPole := le_max_right _ _
        south_le_north := by
          rw [max_le_iff, le_min_iff, le_min_iff]
          exact ⟨⟨by linarith, by linarith⟩, by linarith, by norm_num⟩
        northPole := min_le_right _ _
        width := by
          refine .inr ?_
          linarith }

end Enlarged

section Hull

variable (points : List (Point ℝ))

/-- A longitude as the envelope of some points measures it. -/
noncomputable def measured (longitude : ℝ) : ℝ :=
  if crossesDateLine (points.map Point.longitude) then Scalar.remainder longitude 360.0
  else longitude

/-- The least box that holds some points, with their longitudes as they are measured. -/
noncomputable def hull : BoundingBox ℝ where
  west := Scalar.least (points.map fun p => measured points p.longitude)
  south := Scalar.least (points.map Point.latitude)
  east := Scalar.greatest (points.map fun p => measured points p.longitude)
  north := Scalar.greatest (points.map Point.latitude)

/-- The margin along the meridian. -/
noncomputable def rise (margin : ℝ) : ℝ := min (margin * degreesPerKm) 90.0

theorem rise_eq (margin : ℝ) : rise margin = min (margin * degreesPerKm) 90 := by
  have hright : (90.0 : ℝ) = 90 := by norm_num
  rw [rise, hright]

/-- The margin along the parallel, at the mean of the lowest and the highest latitude. -/
noncomputable def sweep (margin : ℝ) : ℝ :=
  angularDistanceBetween margin (Scalar.least (points.map Point.latitude))
    (Scalar.greatest (points.map Point.latitude))

/-- Longitudes are measured as they are, or some full turns further. -/
theorem exists_measured_eq (longitude : ℝ) :
    ∃ n : ℤ, measured points longitude = longitude + n * 360 := by
  have hturn : |(360.0 : ℝ)| = 360 := by norm_num
  rw [measured]
  by_cases hcross : crossesDateLine (points.map Point.longitude) = true
  · rcases Exact.exists_remainder_eq longitude 360.0 with ⟨n, hn⟩
    refine ⟨-n, ?_⟩
    rw [if_pos hcross, Int.cast_neg, neg_mul, ← sub_eq_add_neg, ← hturn]
    exact hn
  · exact ⟨0, by rw [if_neg hcross, Int.cast_zero, zero_mul, add_zero]⟩

theorem unwrapped_eq : unwrapped (points.map Point.longitude)
    = points.map fun p => measured points p.longitude := by
  by_cases hcross : crossesDateLine (points.map Point.longitude) = true
  · simp only [unwrapped, measured, hcross, if_true, List.map_map]
    rfl
  · simp only [unwrapped, measured, hcross, if_false, Bool.false_eq_true]

/-- The box around points is their hull, enlarged. -/
theorem around?_eq {points : List (Point ℝ)} (hne : points ≠ []) (margin : ℝ) :
    around? points margin = some ((hull points).enlarged (sweep points margin) (rise margin)) := by
  have hempty : points.isEmpty = false := List.isEmpty_eq_false_iff.mpr hne
  have hwidth : Scalar.greatest (points.map fun p => measured points p.longitude)
      - Scalar.least (points.map fun p => measured points p.longitude)
      = (hull points).east - (hull points).west := rfl
  have hmargin : angularDistanceBetween margin (Scalar.least (points.map Point.latitude))
      (Scalar.greatest (points.map Point.latitude)) = sweep points margin := rfl
  simp only [around?, hempty, Bool.false_eq_true, if_false, unwrapped_eq, hwidth, hmargin,
    Exact.lesser_eq, Exact.greater_eq]
  rw [enlarged]
  by_cases hglobe : 180.0 < (hull points).east - (hull points).west + 2.0 * sweep points margin
  · rw [if_pos hglobe, if_pos hglobe]
  · rw [if_neg hglobe, if_neg hglobe]
    rfl

/-- The hull holds every point. -/
theorem hull_holds {points : List (Point ℝ)} {p : Point ℝ} (hp : p ∈ points) :
    (hull points).contains (measured points p.longitude) p.latitude = true := by
  have hlongitude : measured points p.longitude ∈ points.map fun q => measured points q.longitude :=
    List.mem_map.mpr ⟨p, hp, rfl⟩
  have hlatitude : p.latitude ∈ points.map Point.latitude := List.mem_map.mpr ⟨p, hp, rfl⟩
  rw [contains_iff]
  exact ⟨⟨(Exact.least_spec _ (List.ne_nil_of_mem hlongitude)).2 _ hlongitude,
      (Exact.greatest_spec _ (List.ne_nil_of_mem hlongitude)).2 _ hlongitude⟩,
    (Exact.least_spec _ (List.ne_nil_of_mem hlatitude)).2 _ hlatitude,
    (Exact.greatest_spec _ (List.ne_nil_of_mem hlatitude)).2 _ hlatitude⟩

end Hull

/-- Points on the globe that have an envelope: the parallel at the mean of their extreme
    latitudes is not a pole. -/
structure OnGlobe (points : List (Point ℝ)) : Prop where
  nonempty : points ≠ []
  longitude : ∀ p ∈ points, |p.longitude| ≤ 180
  latitude : ∀ p ∈ points, |p.latitude| ≤ 90
  mean : |(Scalar.least (points.map Point.latitude) + Scalar.greatest (points.map Point.latitude))
    / 2| < 90

variable {points : List (Point ℝ)}

/-- The lowest and the highest latitude are those of points. -/
theorem OnGlobe.extremes (h : OnGlobe points) :
    -90 ≤ (hull points).south ∧ (hull points).north ≤ 90 := by
  have hne : points.map Point.latitude ≠ [] := List.map_eq_nil_iff.not.mpr h.nonempty
  rcases List.mem_map.mp (Exact.least_spec _ hne).1 with ⟨p, hp, hleast⟩
  rcases List.mem_map.mp (Exact.greatest_spec _ hne).1 with ⟨q, hq, hgreatest⟩
  have hlow := (abs_le.mp (h.latitude p hp)).1
  have hhigh := (abs_le.mp (h.latitude q hq)).2
  rw [hleast] at hlow
  rw [hgreatest] at hhigh
  exact ⟨hlow, hhigh⟩

section Margins

variable {margin margin' : ℝ}

theorem rise_nonneg (hmargin : 0 ≤ margin) : 0 ≤ rise margin :=
  le_min (mul_nonneg hmargin degreesPerKm_pos.le) (by norm_num)

theorem rise_mono (hle : margin ≤ margin') : rise margin ≤ rise margin' :=
  min_le_min_right 90.0 (mul_le_mul_of_nonneg_right hle degreesPerKm_pos.le)

theorem sweep_eq (points : List (Point ℝ)) (margin : ℝ) : sweep points margin
    = angularDistance margin ((Scalar.least (points.map Point.latitude)
      + Scalar.greatest (points.map Point.latitude)) / 2) := by
  rw [sweep, angularDistanceBetween, Exact.half_eq]

theorem OnGlobe.sweep_nonneg (h : OnGlobe points) (hmargin : 0 ≤ margin) :
    0 ≤ sweep points margin := by
  rw [sweep_eq, angularDistance_eq]
  exact div_nonneg (mul_nonneg hmargin degreesPerKm_pos.le) (cos_toRadians_pos h.mean).le

theorem OnGlobe.sweep_mono (h : OnGlobe points) (hle : margin ≤ margin') :
    sweep points margin ≤ sweep points margin' := by
  rw [sweep_eq, sweep_eq, angularDistance_eq, angularDistance_eq]
  have hscaled := mul_le_mul_of_nonneg_right hle degreesPerKm_pos.le
  exact div_le_div_of_nonneg_right hscaled (cos_toRadians_pos h.mean).le

end Margins

/-- The box around points on the globe is a proper one. -/
theorem OnGlobe.enlarged_proper (h : OnGlobe points) {margin : ℝ} (hmargin : 0 ≤ margin) :
    ((hull points).enlarged (sweep points margin) (rise margin)).Proper := by
  rcases List.exists_mem_of_ne_nil points h.nonempty with ⟨p, hp⟩
  have hheld := hull_holds hp
  rw [contains_iff] at hheld
  rcases hheld with ⟨⟨hwest, heast⟩, hsouth, hnorth⟩
  exact BoundingBox.enlarged_proper (hwest.trans heast) h.extremes.1 (hsouth.trans hnorth)
    h.extremes.2 (h.sweep_nonneg hmargin) (rise_nonneg hmargin)

theorem covers_add_turns {box : BoundingBox ℝ} {longitude latitude : ℝ} (n : ℤ)
    (h : box.Covers (longitude + n * 360) latitude) : box.Covers longitude latitude := by
  rcases h with ⟨m, hm⟩
  refine ⟨n + m, ?_⟩
  rw [Int.cast_add, add_mul, ← add_assoc]
  exact hm

/-- The envelope covers what is within the margins of a point. A place and a point are compared
    as they are given, which need not be as the envelope measures them. -/
theorem envelope_covers {p : Point ℝ} (hp : p ∈ points) {margin longitude latitude : ℝ}
    (hlongitude : |longitude - p.longitude| ≤ sweep points margin)
    (hlatitude : |latitude - p.latitude| ≤ rise margin) (hpoles : |latitude| ≤ 90) :
    ((hull points).enlarged (sweep points margin) (rise margin)).Covers longitude latitude := by
  rcases exists_measured_eq points p.longitude with ⟨n, hn⟩
  refine covers_add_turns n (enlarged_covers (hull_holds hp) ?_ hlatitude hpoles)
  rw [hn, add_sub_add_right_eq_sub]
  exact hlongitude

section Perm

variable {points' : List (Point ℝ)}

theorem hull_eq_of_perm (h : points.Perm points') : hull points = hull points' := by
  have hcross := crossesDateLine_eq_of_perm (h.map Point.longitude)
  have hmeasured : measured points = measured points' := by
    funext longitude
    rw [measured, measured, hcross]
  have hlongitudes := h.map fun p => measured points' p.longitude
  have hlatitudes := h.map Point.latitude
  simp only [hull, hmeasured, Exact.least_eq_of_perm hlongitudes,
    Exact.greatest_eq_of_perm hlongitudes, Exact.least_eq_of_perm hlatitudes,
    Exact.greatest_eq_of_perm hlatitudes]

/-- The order of the points does not matter. -/
theorem around?_eq_of_perm (h : points.Perm points') (margin : ℝ) :
    around? points margin = around? points' margin := by
  by_cases hempty : points = []
  · subst hempty
    rw [List.nil_perm.mp h]
  · have hempty' : points' ≠ [] := by
      rintro rfl
      exact hempty (List.perm_nil.mp h)
    have hlatitudes := h.map Point.latitude
    rw [around?_eq hempty, around?_eq hempty', hull_eq_of_perm h, sweep, sweep,
      Exact.least_eq_of_perm hlatitudes, Exact.greatest_eq_of_perm hlatitudes]

end Perm

/-- Two points on both sides of the date line. -/
noncomputable def straddling : List (Point ℝ) := [⟨179.0, 10.0, 0.0⟩, ⟨-179.0, -10.0, 0.0⟩]

theorem straddling_eq : straddling = [⟨179, 10, 0⟩, ⟨-179, -10, 0⟩] := by
  norm_num [straddling]

theorem western_mem : (⟨-179, -10, 0⟩ : Point ℝ) ∈ straddling := by
  rw [straddling_eq]
  exact List.mem_cons_of_mem _ List.mem_cons_self

theorem straddling_latitudes : Scalar.least (straddling.map Point.latitude) = -10 ∧
    Scalar.greatest (straddling.map Point.latitude) = 10 := by
  rw [straddling_eq, List.map_cons, List.map_cons, List.map_nil, Exact.least_pair,
    Exact.greatest_pair]
  norm_num

/-- Their mean is on the equator. -/
theorem straddling_onGlobe : OnGlobe straddling where
  nonempty := List.cons_ne_nil _ _
  longitude := by
    simp only [straddling_eq, List.forall_mem_cons, List.not_mem_nil, false_implies, implies_true,
      and_true]
    norm_num
  latitude := by
    simp only [straddling_eq, List.forall_mem_cons, List.not_mem_nil, false_implies, implies_true,
      and_true]
    norm_num
  mean := by
    rw [straddling_latitudes.1, straddling_latitudes.2]
    norm_num

/-- There the parallel is as long as a meridian. -/
theorem sweep_straddling (margin : ℝ) : sweep straddling margin = margin * degreesPerKm := by
  rw [sweep_eq, straddling_latitudes.1, straddling_latitudes.2]
  exact angularDistance_equator margin (by norm_num)

/-- Points have an envelope. It is a proper box, it covers what is within the margins of any of
    them, it covers more if it is to cover more, and it does not depend on their order. -/
theorem envelope_grows (h : OnGlobe points) {margin : ℝ} (hmargin : 0 ≤ margin) :
    ∃ box, around? points margin = some box ∧ box.Proper ∧
      (∀ p ∈ points, ∀ longitude latitude,
        |longitude - p.longitude| ≤ sweep points margin → |latitude - p.latitude| ≤ rise margin →
          |latitude| ≤ 90 → box.Covers longitude latitude) ∧
      (∀ margin', margin ≤ margin' → ∃ box', around? points margin' = some box' ∧
        ∀ longitude latitude, box.Covers longitude latitude → box'.Covers longitude latitude) ∧
      ∀ points', points.Perm points' → around? points' margin = some box := by
  have hproper := h.enlarged_proper hmargin
  refine ⟨_, around?_eq h.nonempty margin, hproper, ?_, ?_, ?_⟩
  · intro p hp longitude latitude
    exact envelope_covers hp
  · intro margin' hle
    refine ⟨_, around?_eq h.nonempty margin', fun longitude latitude => ?_⟩
    exact enlarged_mono (h.sweep_mono hle) (rise_mono hle) hproper
  · intro points' hperm
    rw [← around?_eq_of_perm hperm, around?_eq h.nonempty]

/-- The envelope of the two points, as it covers a place to the south and west of one of them. -/
theorem envelope_grows_straddling : OnGlobe straddling ∧
    ∃ box, around? straddling 100 = some box ∧ box.Proper ∧ box.Covers (-179.5) (-10.5) ∧
      (∃ box', around? straddling 200 = some box' ∧
        ∀ longitude latitude, box.Covers longitude latitude → box'.Covers longitude latitude) ∧
      around? straddling.reverse 100 = some box := by
  have hmargin : (0 : ℝ) ≤ 100 := by norm_num
  rcases envelope_grows straddling_onGlobe hmargin with
    ⟨box, hbox, hproper, hcovers, hgrows, hperm⟩
  refine ⟨straddling_onGlobe, box, hbox, hproper, hcovers _ western_mem _ _ ?_ ?_ ?_,
    hgrows 200 (by norm_num), hperm _ (List.reverse_perm straddling).symm⟩
  · rw [sweep_straddling]
    norm_num [degreesPerKm, abs_le]
  · norm_num [rise_eq, degreesPerKm, abs_le]
  · norm_num [abs_le]

end BoundingBox

end Seismicity
