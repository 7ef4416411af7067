import Seismicity.Proofs.Geodesy.Boxes
import Seismicity.Proofs.Source.Radius

/-!
# Boxes of Clusters

How the box of a cluster relates to those of its members.

Sources are filtered by their boxes before their ruptures are computed. The full
enumeration of a cluster has the ruptures of its members, but its box is one of the cheap
ways to look at it: it is laid out around the averaged location, with the radius of the
averaged plane. A member may be far from that location, and its own planes may need a
greater radius, so there may be sites that are in the box of a member and not in the box of
the cluster. How far the box of the cluster has to be enlarged to make up for both is
`coveringMargin`.

Two sources without an extent to speak of show that the enlargement is not optional. The
cluster lies between them, and for the distance zero its box is too small to hold both
(`boundingBox_misses_ends`).

## Main definitions

* `Cluster.Covers`: The box of a cluster reaches as far as the box of a source.
* `Cluster.coveringMargin`: The least distance for which it does.
* `PointSource.tiny`: A source on the equator whose ruptures are a few metres wide.

## Theorems

* `PointSource.Made.maxRadius_pos`, `Cluster.Made.maxRadius_nonneg`: Radii.
* `Cluster.Made.members`: Members come about as sources do.
* `PointSource.tiny_made`, `PointSource.maxRadius_tiny_le`: Tiny sources.
* `AverageGeometry.mean_tiny`, `Cluster.form_tiny`: The mean geometry of two of them, and
  the cluster that has it.
* `Cluster.boundingBox_holds_iff`: When the box of a cluster holds that of a member.
* `Cluster.boundingBox_misses_ends`: Members outside of the box of their cluster.
-/

namespace Seismicity

/-- A rupture on a legal plane in a layer has an extent. -/
theorem RuptureSetting.projectionRadius_pos (setting : RuptureSetting ℝ) (magnitude : ℝ)
    (plane : NodalPlane ℝ) (h : (setting.radiusInput magnitude plane).Admissible) :
    0 < setting.projectionRadius magnitude plane := by
  have hlength := pow_pos (RuptureInput.extent_length_pos h) 2
  refine div_pos (Real.sqrt_pos.mpr ?_) (by norm_num)
  exact add_pos_of_pos_of_nonneg hlength (sq_nonneg _)

/-- However a source came about, its radius is positive. -/
theorem PointSource.Made.maxRadius_pos {s : PointSource ℝ} (h : s.Made) : 0 < s.maxRadius := by
  have haccepted := h.accepted
  rcases List.exists_mem_of_ne_nil _ haccepted.nonempty.1 with ⟨entry, hentry⟩
  have hadmissible := s.setting.input_admissible (greatestMagnitude s.bins) entry.2
    (Point.onSurface 0.0 0.0) haccepted.valid.layer
    (Exact.zero_eq.symm.le.trans_lt haccepted.valid.aspectRatio)
    (planes_inRange haccepted entry.2 (List.mem_map_of_mem hentry))
  rw [h.maxRadius_eq]
  exact (s.setting.projectionRadius_pos _ entry.2 hadmissible).trans_le
    ((s.radiusAt_spec _ haccepted.nonempty.1).2 entry hentry)

namespace Cluster

theorem Made.maxRadius_nonneg {c : Cluster ℝ} (h : c.Made) : 0 ≤ c.maxRadius := by
  rw [h.maxRadius_eq]
  exact c.setting.projectionRadius_nonneg _ c.geometry.plane

/-- The members of a cluster come about as other sources do. -/
theorem Made.members {α : Type} [Scalar α] {c : Cluster α} (h : c.Made) :
    ∀ s ∈ c.members, s.Made := by
  induction h with
  | form id members c hmembers hform =>
      rw [(form_ok id members c hform).2.1]
      exact hmembers
  | withRadius c _ ih => exact ih

/-- The box of the cluster for the distance `margin'` reaches as far as the box of the
    source for the distance `margin`. -/
def Covers (c : Cluster ℝ) (s : PointSource ℝ) (margin margin' : ℝ) : Prop :=
  BoundingBox.Reaches s.location c.location (margin + s.maxRadius) (margin' + c.maxRadius)

/-- The least distance for which the box of the cluster reaches as far as the box of the
    source for the distance `margin`. -/
noncomputable def coveringMargin (c : Cluster ℝ) (s : PointSource ℝ) (margin : ℝ) : ℝ :=
  BoundingBox.leastMargin s.location c.location (margin + s.maxRadius) - c.maxRadius

end Cluster

namespace PointSource

/-- A source on the equator, all of whose ruptures are a few metres wide. -/
noncomputable def tiny (longitude : ℝ) : PointSource ℝ :=
  { weightless "tiny" 0.0 with
    scaling := .point
    location := { longitude := longitude, latitude := 0.0, depth := 0.0 } }

theorem tiny_made (longitude : ℝ) : (tiny longitude).Made := by
  have hweightless := weightless_accepted "tiny" 0.0 (by norm_num)
  have hvalid : (tiny longitude).toPointSourceSpec.Valid :=
    { weightless_valid "tiny" 0.0 (by norm_num) with
      longitude := rfl
      latitude := rfl }
  have hsource : ofSpec (tiny longitude).toPointSourceSpec = .ok (tiny longitude) := by
    rw [ofSpec, (PointSourceSpec.fault?_eq_none_iff _).mpr hvalid]
    rfl
  rcases hweightless.planes with ⟨planes, hplanes⟩
  rcases hweightless.depths with ⟨depths, hdepths⟩
  exact Made.ofSpec (tiny longitude).toPointSourceSpec planes depths _ hplanes hdepths hsource

end PointSource

/-- A square rupture that fits into its layer reaches no further than its sides. -/
theorem RuptureInput.projectionRadius_le_of_square {input : RuptureInput ℝ}
    (h : input.Admissible) {side : ℝ} (hside : 0 < side) (harea : input.area = side ^ 2)
    (hratio : input.aspectRatio = 1) (hlayer : side ≤ input.lower - input.upper) :
    input.extent.projectionRadius ≤ side := by
  have hlength : input.naturalLength = side := by
    change Real.sqrt (input.area * input.aspectRatio) = side
    rw [harea, hratio, mul_one, Real.sqrt_sq hside.le]
  have hwidth : input.naturalWidth = side := by
    rw [naturalWidth, hlength, harea, pow_two, mul_self_div_self]
  have hwidest : side ≤ input.widest := by
    have hsin := sin_dipAngle_pos h
    exact hlayer.trans (le_div_self (hside.le.trans hlayer) hsin (Real.sin_le_one _))
  have hfitted : input.fittedWidth = side := by
    rw [fittedWidth, hwidth, min_eq_left hwidest]
  have hcos := cos_dipAngle_nonneg h
  -- Half of the diagonal of a square is shorter than its side.
  have hdiagonal : Real.sqrt (input.extent.length ^ 2 + input.extent.horizontal ^ 2)
      ≤ 2 * side := by
    rw [extent_length_eq h, extent_horizontal_eq h, hfitted, harea, pow_two side,
      mul_self_div_self, Real.sqrt_le_left (by linarith)]
    have hlevel := mul_le_of_le_one_right hside.le (Real.cos_le_one input.dipAngle)
    have hsquare := pow_le_pow_left₀ (mul_nonneg hside.le hcos) hlevel 2
    nlinarith
  change Real.sqrt (input.extent.length ^ 2 + input.extent.horizontal ^ 2) / 2.0 ≤ side
  rw [Exact.half_eq]
  linarith

/-- Ruptures without an area to speak of have no radius to speak of. -/
theorem RuptureSetting.projectionRadius_point_le (setting : RuptureSetting ℝ) (magnitude : ℝ)
    (plane : NodalPlane ℝ) (hscaling : setting.scaling = .point)
    (hratio : setting.aspectRatio = 1) (hlayer : setting.upper + 1 ≤ setting.lower)
    (hplane : plane.InRange) : setting.projectionRadius magnitude plane ≤ 1 / 100 := by
  have hadmissible := setting.input_admissible magnitude plane (Point.onSurface 0.0 0.0)
    (by linarith) (by rw [hratio]; norm_num) hplane
  refine RuptureInput.projectionRadius_le_of_square hadmissible (by norm_num) ?_ hratio ?_
  · change setting.scaling.medianArea magnitude (some plane.rake) = _
    rw [hscaling, ScalingRelation.medianArea]
    norm_num
  · change 1 / 100 ≤ setting.lower - setting.upper
    linarith

theorem PointSource.maxRadius_tiny_le (longitude : ℝ) : (tiny longitude).maxRadius ≤ 1 / 100 := by
  have hmade := tiny_made longitude
  rcases ((tiny longitude).radiusAt_spec (greatestMagnitude (tiny longitude).bins)
    hmade.accepted.nonempty.1).1 with ⟨entry, hentry, hradius⟩
  rw [hmade.maxRadius_eq, ← hradius]
  refine RuptureSetting.projectionRadius_point_le _ _ _ rfl Exact.one_eq ?_
    (planes_inRange hmade.accepted entry.2 (List.mem_map_of_mem hentry))
  change (0.0 : ℝ) + 1 ≤ 0.0 + 10.0
  norm_num

namespace AverageGeometry

/-- What the two tiny sources have in common, their mean geometry has too. -/
theorem mean_tiny (f : PointSource ℝ → ℝ) (x : ℝ) (hfirst : f (.tiny 0) = x)
    (hsecond : f (.tiny 1) = x) : mean [.tiny 0, .tiny 1] f = x := by
  refine (isMean_mean [PointSource.tiny 0, .tiny 1] (List.cons_ne_nil _ _)).eq_const ?_
  rw [List.forall_mem_cons, List.forall_mem_singleton]
  exact ⟨hfirst, hsecond⟩

theorem latitude_tiny : (meanOf [PointSource.tiny 0, .tiny 1]).latitude = 0 := by
  rw [meanOf, mean_tiny (fun s => s.location.latitude) 0 Exact.zero_eq Exact.zero_eq]
  change Exact.roundAway (0 * 1000000.0) / 1000000.0 = 0
  norm_num [Exact.roundAway]

/-- The mean longitude lies between the two, but for rounding. -/
theorem abs_longitude_tiny_le : |(meanOf [PointSource.tiny 0, .tiny 1]).longitude| ≤ 2 := by
  have hmean := isMean_mean [PointSource.tiny 0, .tiny 1] (List.cons_ne_nil _ _)
  have hlow : 0 ≤ mean [.tiny 0, .tiny 1] fun s => s.location.longitude := by
    refine hmean.const_le ?_
    rw [List.forall_mem_cons, List.forall_mem_singleton]
    exact ⟨le_refl 0, zero_le_one⟩
  have hhigh : (mean [.tiny 0, .tiny 1] fun s => s.location.longitude) ≤ 1 := by
    refine hmean.le_const ?_
    rw [List.forall_mem_cons, List.forall_mem_singleton]
    exact ⟨zero_le_one, le_refl 1⟩
  have hround := abs_le.mp (Exact.abs_roundTo6_sub_le
    (mean [.tiny 0, .tiny 1] fun s => s.location.longitude))
  rw [meanOf, abs_le]
  constructor <;> linarith

theorem layer_tiny : (meanOf [PointSource.tiny 0, .tiny 1]).upper + 1
    ≤ (meanOf [PointSource.tiny 0, .tiny 1]).lower := by
  have hupper : (meanOf [PointSource.tiny 0, .tiny 1]).upper = 0 :=
    mean_tiny _ 0 Exact.zero_eq Exact.zero_eq
  have hlower : (meanOf [PointSource.tiny 0, .tiny 1]).lower = 0.0 + 10.0 := mean_tiny _ _ rfl rfl
  rw [hupper, hlower]
  norm_num

end AverageGeometry

namespace Cluster

/-- Two tiny sources, one degree apart, form a cluster between them. -/
theorem form_tiny : ∃ c : Cluster ℝ, form "pair" [.tiny 0, .tiny 1] = .ok c ∧ c.Made ∧
    c.members = [.tiny 0, .tiny 1] ∧ c.location.latitude = 0 ∧ |c.location.longitude| ≤ 2 ∧
    c.maxRadius ≤ 1 / 100 := by
  have hmade : ∀ s ∈ [PointSource.tiny 0, .tiny 1], s.Made := by
    rw [List.forall_mem_cons, List.forall_mem_singleton]
    exact ⟨PointSource.tiny_made 0, PointSource.tiny_made 1⟩
  have hagree : ∀ s ∈ [PointSource.tiny 0, .tiny 1], (PointSource.tiny 0).Agrees s := by
    rw [List.forall_mem_cons, List.forall_mem_singleton]
    exact ⟨⟨rfl, rfl, rfl⟩, rfl, rfl, rfl⟩
  rcases (form_eq_ok_iff "pair" _ _).mpr hagree with ⟨c, hc⟩
  rcases form_ok "pair" _ c hc with ⟨_, hmembers, hformed⟩
  rcases form_geometry "pair" _ c hc with ⟨hne, hgeometry⟩
  have hcluster := Made.form "pair" _ c hmade hc
  have hlegal := AverageGeometry.meanOf_legal _ hne fun s hs => (hmade s hs).accepted
  have hlatitude : c.geometry.latitude = 0 := hgeometry ▸ AverageGeometry.latitude_tiny
  have hlongitude : |c.geometry.longitude| ≤ 2 := hgeometry ▸ AverageGeometry.abs_longitude_tiny_le
  have hlayer : c.geometry.upper + 1 ≤ c.geometry.lower := hgeometry ▸ AverageGeometry.layer_tiny
  have hratio : c.geometry.aspectRatio = 1 :=
    hgeometry ▸ AverageGeometry.mean_tiny _ 1 Exact.one_eq Exact.one_eq
  have hscaling : c.scaling = .point :=
    (hformed.agrees (.tiny 0) (hmembers ▸ List.mem_cons_self)).2.1.symm
  refine ⟨c, hc, hcluster, hmembers, hlatitude, hlongitude, ?_⟩
  rw [hcluster.maxRadius_eq]
  exact c.setting.projectionRadius_point_le _ _ hscaling hratio hlayer (hgeometry ▸ hlegal.plane)

/-- When the box of a cluster holds the box of a member.

    The ruptures of a member are among those of the cluster, in their order. If the box of
    the cluster for one distance reaches as far as the box of the member for another, it
    holds all of it that is on the globe. Otherwise it does not, unless it is the globe or
    the box of the member is cut at a pole. Away from the poles it reaches as far exactly
    if the distance is no less than the covering one, which allows for how far the member
    is from the averaged location and for how much its radius exceeds that of the averaged
    plane. -/
theorem boundingBox_holds_iff (c : Cluster ℝ) (h : c.Made) (s : PointSource ℝ)
    (hs : s ∈ c.members) (hlat : |s.location.latitude| < 90) (margin margin' : ℝ)
    (hmargin : 0 ≤ margin) (hmargin' : 0 ≤ margin') :
    (∀ options, (s.ruptures options).Sublist (c.ruptures options)) ∧
    (c.Covers s margin margin' → ∀ longitude latitude,
      (c.boundingBox margin' = BoundingBox.globe → |longitude| ≤ 180) →
      (s.boundingBox margin).contains longitude latitude = true →
      (c.boundingBox margin').contains longitude latitude = true) ∧
    (|c.location.latitude| < 90 → c.boundingBox margin' ≠ BoundingBox.globe →
      |s.location.latitude| + (margin + s.maxRadius) * Geodesy.degreesPerKm ≤ 90 →
      (∀ longitude latitude, (s.boundingBox margin).contains longitude latitude = true →
        (c.boundingBox margin').contains longitude latitude = true) →
      c.Covers s margin margin') ∧
    (|c.location.latitude| < 90 →
      (c.Covers s margin margin' ↔ c.coveringMargin s margin ≤ margin')) := by
  have hreach : 0 < margin + s.maxRadius :=
    add_pos_of_nonneg_of_pos hmargin (h.members s hs).maxRadius_pos
  have hreach' : 0 ≤ margin' + c.maxRadius := add_nonneg hmargin' h.maxRadius_nonneg
  refine ⟨fun options => ?_, fun hcovers longitude latitude hglobe hmem => ?_,
    fun _ hglobe hpoles hheld => ?_, fun hclat => ?_⟩
  · rw [ruptures, List.flatMap]
    exact List.sublist_flatten_of_mem (List.mem_map_of_mem hs)
  · exact hcovers.contains hlat hreach hreach' longitude latitude hglobe hmem
  · exact BoundingBox.reaches_of_contains hlat hreach hglobe hpoles hheld
  · rw [Covers, BoundingBox.reaches_iff_leastMargin_le hclat, coveringMargin, sub_le_iff_le_add]

/-- At 300 km the box of the pair is not the globe, and it holds all of the box of its first
    member. -/
theorem boundingBox_holds_iff_tiny :
    ∃ c : Cluster ℝ, form "pair" [.tiny 0, .tiny 1] = .ok c ∧ c.Made ∧ .tiny 0 ∈ c.members ∧
      c.boundingBox 300 ≠ BoundingBox.globe ∧ c.coveringMargin (.tiny 0) 0 ≤ 300 ∧
      ∀ longitude latitude,
        ((PointSource.tiny 0).boundingBox 0).contains longitude latitude = true →
        (c.boundingBox 300).contains longitude latitude = true := by
  rcases form_tiny with ⟨c, hc, hmade, hmembers, hlatitude, hlongitude, hradius⟩
  have hmember : .tiny 0 ∈ c.members := by
    rw [hmembers]
    exact List.mem_cons_self
  have hmemberLatitude : (PointSource.tiny 0).location.latitude = 0 := Exact.zero_eq
  have hequator : |(PointSource.tiny 0).location.latitude| < 90 := by
    rw [hmemberLatitude, abs_zero]
    norm_num
  have hequator' : |c.location.latitude| < 90 := by
    rw [hlatitude, abs_zero]
    norm_num
  have hscale : (Geodesy.degreesPerKm : ℝ) = 89932 / 10 ^ 7 := by norm_num [Geodesy.degreesPerKm]
  have hsmall := PointSource.maxRadius_tiny_le 0
  have hnonneg := hmade.maxRadius_nonneg
  have hglobe : c.boundingBox 300 ≠ BoundingBox.globe := by
    refine (BoundingBox.aroundPoint_ne_globe_iff _ _).mpr ?_
    rw [Geodesy.angularDistance_equator _ hlatitude, hscale]
    linarith
  have hcovers : c.Covers (.tiny 0) 0 300 := by
    constructor
    · rw [Geodesy.angularDistance_equator _ hlatitude,
        Geodesy.angularDistance_equator _ hmemberLatitude, hscale]
      have hoffset : |(PointSource.tiny 0).location.longitude - c.location.longitude| ≤ 2 := by
        change |0 - c.location.longitude| ≤ 2
        rw [zero_sub, abs_neg]
        exact hlongitude
      linarith
    · rw [hlatitude, hmemberLatitude, hscale, sub_self, abs_zero]
      linarith
  have hholds := boundingBox_holds_iff c hmade (.tiny 0) hmember hequator 0 300 (le_refl 0)
    (by norm_num)
  exact ⟨c, hc, hmade, hmember, hglobe, (hholds.2.2.2 hequator').mp hcovers,
    fun longitude latitude => hholds.2.1 hcovers longitude latitude fun h => absurd h hglobe⟩

/-- The box of the pair does not hold both of its members, although each is in its own box. -/
theorem boundingBox_misses_ends :
    ∃ c : Cluster ℝ, form "pair" [.tiny 0, .tiny 1] = .ok c ∧ c.Made ∧
      ∃ s ∈ c.members,
        (s.boundingBox 0).contains s.location.longitude s.location.latitude = true ∧
        ¬ (c.boundingBox 0).contains s.location.longitude s.location.latitude = true := by
  rcases form_tiny with ⟨c, hc, hmade, hmembers, hlatitude, _, hradius⟩
  refine ⟨c, hc, hmade, ?_⟩
  have hself : ∀ longitude : ℝ, |longitude| ≤ 180 →
      ((PointSource.tiny longitude).boundingBox 0).contains longitude 0.0 = true := by
    intro longitude hlongitude
    refine BoundingBox.aroundPoint_contains_self hlongitude ?_ ?_
    · change |(0.0 : ℝ)| < 90
      norm_num
    · rw [zero_add]
      exact (PointSource.tiny_made longitude).maxRadius_pos.le
  have hwidth : Geodesy.angularDistance (0 + c.maxRadius) c.location.latitude < 1 / 2 := by
    have hscale : (Geodesy.degreesPerKm : ℝ) < 1 := by norm_num [Geodesy.degreesPerKm]
    rw [Geodesy.angularDistance_equator _ hlatitude, zero_add]
    nlinarith [hmade.maxRadius_nonneg]
  have hglobe : c.boundingBox 0 ≠ BoundingBox.globe :=
    (BoundingBox.aroundPoint_ne_globe_iff _ _).mpr (by linarith)
  have hcontains := BoundingBox.contains_aroundPoint_iff _ _ hglobe
  rw [hmembers]
  by_cases hfirst : (c.boundingBox 0).contains 0 0.0 = true
  · -- The box is not wide enough to hold the second member too.
    refine ⟨.tiny 1, List.mem_cons_of_mem _ (List.mem_singleton_self _), hself 1 (by norm_num), ?_⟩
    intro hsecond
    have hleft := (abs_le.mp ((hcontains _ _).mp hfirst).1).1
    have hright := (abs_le.mp ((hcontains _ _).mp hsecond).1).2
    change 1 - c.location.longitude ≤ _ at hright
    linarith
  · exact ⟨.tiny 0, List.mem_cons_self, hself 0 (by norm_num), hfirst⟩

end Cluster

end Seismicity
