import Seismicity.Proofs.Exact.Extremes
import Seismicity.Proofs.Rupture.Growth
import Seismicity.Proofs.Source.Averages
import Seismicity.Proofs.Source.Enumeration

/-!
# Projection Radii

The radius that a source keeps for itself bounds the radius of every rupture.

It is computed at the greatest magnitude only, and kept. Both need an argument.
That the greatest magnitude is enough is `projectionRadius_mono`: on each plane the
radius grows with the magnitude, so no rupture has a greater one than some plane
has at the greatest magnitude. That a radius which is kept is still the right one
is an invariant of whatever can be done with a source: `Made` lists the
operations, and `Made.maxRadius_eq` says that the radius is the one at the greatest
magnitude however the source came about, whether or not it was asked before.

A cluster keeps the radius of its averaged plane. Members whose distributions were
accepted have a legal mean geometry, so the same growth bounds the ruptures of the
averaged enumeration.

## Main definitions

* `PointSource.Made`, `Cluster.Made`: Sources as they come about.

## Theorems

* `RuptureSetting.projectionRadius_mono`: The radius grows with the magnitude.
* `PointSource.Made.maxRadius_eq`, `Cluster.Made.maxRadius_eq`: A radius that is kept
  is the right one.
* `radiusAt_spec`, `radiusAt_mono`, `radiusAt_le_maxRadius`: The radius over all
  planes.
* `ruptureRadius_eq`: The radius of a rupture is that of its plane.
* `maxRadius_bounds`: The radius bounds every rupture.
* `PointSource.weightless_made`, `Cluster.form_twoLayers`: Sources that come about.
-/

namespace Seismicity

/-- On a plane in a layer the projection radius grows with the magnitude. -/
theorem RuptureSetting.projectionRadius_mono (setting : RuptureSetting ℝ)
    (plane : NodalPlane ℝ) (hlayer : setting.upper < setting.lower)
    (hratio : 0 < setting.aspectRatio) (hdip : 0 < plane.dip ∧ plane.dip ≤ 90) :
    Monotone fun magnitude => setting.projectionRadius magnitude plane := by
  intro m m' hle
  have hadmissible : ∀ magnitude, (setting.radiusInput magnitude plane).Admissible := by
    intro magnitude
    exact
      { layer := hlayer
        area := setting.scaling.medianArea_pos magnitude _
        aspectRatio := hratio
        dip_pos := hdip.1
        dip_le := hdip.2 }
  have hgrow : (setting.radiusInput m' plane).Outgrows (setting.radiusInput m plane) :=
    { upper := rfl
      lower := rfl
      aspectRatio := rfl
      dip := rfl
      area := setting.scaling.medianArea_mono (some plane.rake) hle }
  exact RuptureInput.projectionRadius_mono (hadmissible m) (hadmissible m') hgrow

theorem RuptureSetting.projectionRadius_nonneg (setting : RuptureSetting ℝ) (magnitude : ℝ)
    (plane : NodalPlane ℝ) : 0 ≤ setting.projectionRadius magnitude plane :=
  div_nonneg (Real.sqrt_nonneg _) (by norm_num)

/-- Point sources as they come about: from an accepted description with accepted
    distributions, tagged and asked for their radius in any order. -/
inductive PointSource.Made {α : Type} [Scalar α] : PointSource α → Prop where
  | ofSpec (spec : PointSourceSpec α) (planes : List (α × NodalPlane α)) (depths : List (α × α))
      (s : PointSource α) (hplanes : Pmf.ofEntries planes = .ok spec.planes)
      (hdepths : Pmf.ofEntries depths = .ok spec.depths)
      (hsource : PointSource.ofSpec spec = .ok s) : Made s
  | withGroup (s : PointSource α) (group modelIndex : Nat) (h : Made s) :
      Made (s.withGroup group modelIndex)
  | withRadius (s : PointSource α) (h : Made s) : Made s.withRadius

namespace PointSource

variable {α : Type} [Scalar α]

/-- However a source came about, it is accepted. -/
theorem Made.accepted {s : PointSource α} (h : s.Made) : s.Accepted := by
  induction h with
  | ofSpec spec planes depths s hplanes hdepths hsource =>
      have hspec := (ofSpec_ok spec s hsource).2
      refine ⟨⟨planes, ?_⟩, ⟨depths, ?_⟩, ⟨spec, s, hsource, rfl⟩⟩
      · rw [hspec]
        exact hplanes
      · rw [hspec]
        exact hdepths
  | withGroup s group modelIndex _ ih => exact ⟨ih.planes, ih.depths, ih.source⟩
  | withRadius s _ ih => exact ⟨ih.planes, ih.depths, ih.source⟩

/-- However a source came about, its radius is the one at its greatest magnitude. -/
theorem Made.maxRadius_eq {s : PointSource α} (h : s.Made) :
    s.maxRadius = s.radiusAt (greatestMagnitude s.bins) := by
  -- Tags take no part in the radius, and what is kept is what was computed.
  induction h with
  | ofSpec spec planes depths s hplanes hdepths hsource =>
      have hnone : s.radius = none := by
        rw [PointSource.ofSpec] at hsource
        cases hfault : spec.fault? with
        | some fault =>
            rw [hfault] at hsource
            exact absurd hsource (by simp only [reduceCtorEq, not_false_eq_true])
        | none =>
            rw [hfault, Except.ok.injEq] at hsource
            rw [← hsource]
      rw [maxRadius, hnone, Option.getD_none]
  | withGroup s group modelIndex _ ih => exact ih
  | withRadius s _ ih => exact ih

end PointSource

/-- Clusters as they come about: formed of such sources, and asked for their
    radius. -/
inductive Cluster.Made {α : Type} [Scalar α] : Cluster α → Prop where
  | form (id : String) (members : List (PointSource α)) (c : Cluster α)
      (hmembers : ∀ s ∈ members, s.Made) (hform : Cluster.form id members = .ok c) : Made c
  | withRadius (c : Cluster α) (h : Made c) : Made c.withRadius

namespace Cluster

/-- However a cluster came about, its radius is the one at its greatest
    magnitude. -/
theorem Made.maxRadius_eq {α : Type} [Scalar α] {c : Cluster α} (h : c.Made) :
    c.maxRadius = c.radiusAt (greatestMagnitude c.bins) := by
  induction h with
  | form id members c _ hform =>
      rcases (form_ok id members c hform).2.2 with ⟨first, rest, hc, _⟩
      have hnone : c.radius = none := by
        rw [hc]
        rfl
      rw [maxRadius, hnone, Option.getD_none]
  | withRadius c _ ih => exact ih

/-- However a cluster came about, its geometry is one that its members could have. -/
theorem Made.legal {c : Cluster ℝ} (h : c.Made) : ∃ members, c.geometry.Legal members := by
  induction h with
  | form id members c hmembers hform =>
      rcases form_geometry id members c hform with ⟨hne, hmean⟩
      refine ⟨members, ?_⟩
      rw [hmean]
      exact AverageGeometry.meanOf_legal members hne fun s hs => (hmembers s hs).accepted
  | withRadius c _ ih => exact ih

end Cluster

namespace PointSource

variable {s : PointSource ℝ}

/-- The projection radii of a magnitude, plane by plane. -/
noncomputable def planeRadii (s : PointSource ℝ) (magnitude : ℝ) : List ℝ :=
  s.planes.entries.map fun entry => s.setting.projectionRadius magnitude entry.2

theorem radiusAt_eq (s : PointSource ℝ) (magnitude : ℝ) :
    s.radiusAt magnitude = (s.planeRadii magnitude).foldl max 0 := by
  rw [radiusAt, Exact.foldl_greater_eq, radiusInputs, List.map_map, Exact.zero_eq]
  rfl

/-- No plane has a greater radius than the source, and one has as great a one. -/
theorem radiusAt_spec (s : PointSource ℝ) (magnitude : ℝ) (hne : s.planes.entries ≠ []) :
    (∃ entry ∈ s.planes.entries,
      s.setting.projectionRadius magnitude entry.2 = s.radiusAt magnitude) ∧
    ∀ entry ∈ s.planes.entries,
      s.setting.projectionRadius magnitude entry.2 ≤ s.radiusAt magnitude := by
  have hspec := Exact.foldl_max_spec (s.planeRadii magnitude) 0
  rw [← radiusAt_eq] at hspec
  have hbound : ∀ entry ∈ s.planes.entries,
      s.setting.projectionRadius magnitude entry.2 ≤ s.radiusAt magnitude := by
    intro entry hentry
    exact hspec.2 _ (List.mem_cons_of_mem _ (List.mem_map_of_mem hentry))
  refine ⟨?_, hbound⟩
  rcases List.mem_cons.mp hspec.1 with hzero | hmem
  · -- The loop starts from zero, which no radius is below: a radius that is no
    -- greater is zero itself.
    rcases List.exists_mem_of_ne_nil _ hne with ⟨entry, hentry⟩
    have hle := hbound entry hentry
    have hnonneg := s.setting.projectionRadius_nonneg magnitude entry.2
    refine ⟨entry, hentry, le_antisymm hle ?_⟩
    rw [hzero]
    exact hnonneg
  · exact List.mem_map.mp hmem

/-- Accepted sources have planes, depths and bins with a positive rate. -/
theorem Accepted.nonempty (h : s.Accepted) :
    s.planes.entries ≠ [] ∧ s.depths.entries ≠ [] ∧ s.bins ≠ [] := by
  rcases h.planes with ⟨planes, hplanes⟩
  rcases h.depths with ⟨depths, hdepths⟩
  rcases h.valid.rate with ⟨bin, hbin, hrate⟩
  rcases (Pmf.ofEntries_eq_ok_iff planes s.planes).mp hplanes with ⟨hp, hpne, _⟩
  rcases (Pmf.ofEntries_eq_ok_iff depths s.depths).mp hdepths with ⟨hd, hdne, _⟩
  refine ⟨hp ▸ hpne, hd ▸ hdne, ?_⟩
  have hpositive : bin ∈ s.bins := List.mem_filter.mpr ⟨hbin, decide_eq_true (not_le.mp hrate)⟩
  exact List.ne_nil_of_mem hpositive

/-- On each plane of an accepted source the radius grows with the magnitude. -/
theorem Accepted.projectionRadius_mono (h : s.Accepted) (entry : ℝ × NodalPlane ℝ)
    (hentry : entry ∈ s.planes.entries) :
    Monotone fun magnitude => s.setting.projectionRadius magnitude entry.2 := by
  have hratio : 0 < s.setting.aspectRatio := Exact.zero_eq.symm.le.trans_lt h.valid.aspectRatio
  have hplane := planes_inRange h entry.2 (List.mem_map_of_mem hentry)
  exact s.setting.projectionRadius_mono entry.2 h.valid.layer hratio hplane.dip

/-- The radius of an accepted source grows with the magnitude. -/
theorem radiusAt_mono (h : s.Accepted) : Monotone s.radiusAt := by
  intro m m' hle
  rcases (s.radiusAt_spec m h.nonempty.1).1 with ⟨entry, hentry, hequal⟩
  calc
    s.radiusAt m = s.setting.projectionRadius m entry.2 := hequal.symm
    _ ≤ s.setting.projectionRadius m' entry.2 := h.projectionRadius_mono entry hentry hle
    _ ≤ s.radiusAt m' := (s.radiusAt_spec m' h.nonempty.1).2 entry hentry

/-- A planar rupture, turned to its own dip, has the radius of the plane it was
    made on. -/
theorem ruptureRadius_eq (s : PointSource ℝ) (magnitude rate : ℝ) (plane : NodalPlane ℝ)
    (hypocenter : Point ℝ) (shift : Bool) :
    ∃ surface,
      (s.setting.rupture magnitude rate plane hypocenter false shift).surface = .planar surface ∧
      s.ruptureRadius (s.setting.rupture magnitude rate plane hypocenter false shift) surface.dip
        = s.setting.projectionRadius magnitude plane := by
  refine ⟨_, rfl, ?_⟩
  cases shift with
  | false => rfl
  | true => rfl

/-- No bin has a greater radius than the source keeps. -/
theorem radiusAt_le_maxRadius (h : s.Made) (bin : Bin ℝ) (hbin : bin ∈ s.bins) :
    s.radiusAt bin.magnitude ≤ s.maxRadius := by
  have hgreatest := (greatestMagnitude_spec s.bins h.accepted.nonempty.2.2).2 bin hbin
  rw [h.maxRadius_eq]
  exact radiusAt_mono h.accepted hgreatest

/-- No rupture of the planar enumeration has a greater radius than the source. -/
theorem ruptureRadius_le (h : s.Made) (options : RuptureOptions ℝ)
    (hplanar : options.asPoint = false) (r : Rupture ℝ) (hr : r ∈ s.ruptures options) :
    ∃ surface, r.surface = .planar surface ∧ s.ruptureRadius r surface.dip ≤ s.maxRadius := by
  have haccepted := h.accepted
  rcases (s.mem_ruptures_iff options r).mp hr with ⟨plane, hplane, depth, _, bin, hbin, heq⟩
  have hgreatest := (greatestMagnitude_spec s.bins haccepted.nonempty.2.2).2 bin
    (s.mem_bins_of_selected options bin hbin)
  rw [hplanar] at heq
  rcases s.ruptureRadius_eq bin.magnitude (bin.rate * plane.1 * depth.1) plane.2
    (s.location.atDepth depth.2) options.shift with ⟨surface, hsurface, hradius⟩
  rw [← heq] at hsurface hradius
  refine ⟨surface, hsurface, ?_⟩
  calc
    s.ruptureRadius r surface.dip = s.setting.projectionRadius bin.magnitude plane.2 := hradius
    _ ≤ s.setting.projectionRadius (greatestMagnitude s.bins) plane.2 :=
      haccepted.projectionRadius_mono plane hplane hgreatest
    _ ≤ s.radiusAt (greatestMagnitude s.bins) :=
      (s.radiusAt_spec _ haccepted.nonempty.1).2 plane hplane
    _ = s.maxRadius := h.maxRadius_eq.symm

/-- Some rupture of the planar enumeration has the radius of the source. -/
theorem exists_ruptureRadius_eq (h : s.Made) (shift : Bool) :
    ∃ r ∈ s.ruptures { magnitude := none, asPoint := false, shift := shift },
      ∃ surface, r.surface = .planar surface ∧ s.ruptureRadius r surface.dip = s.maxRadius := by
  rcases h.accepted.nonempty with ⟨hplanes, hdepths, hbins⟩
  rcases (greatestMagnitude_spec s.bins hbins).1 with ⟨bin, hbin, hgreatest⟩
  rcases (s.radiusAt_spec (greatestMagnitude s.bins) hplanes).1 with ⟨plane, hplane, hequal⟩
  rcases List.exists_mem_of_ne_nil _ hdepths with ⟨depth, hdepth⟩
  rcases s.ruptureRadius_eq bin.magnitude (bin.rate * plane.1 * depth.1) plane.2
    (s.location.atDepth depth.2) shift with ⟨surface, hsurface, hradius⟩
  refine ⟨_, (s.mem_ruptures_iff _ _).mpr ⟨plane, hplane, depth, hdepth, bin, hbin, rfl⟩,
    surface, hsurface, ?_⟩
  rw [hradius, hgreatest, hequal, h.maxRadius_eq]

end PointSource

namespace Cluster

/-- No rupture of the averaged enumeration has a greater radius than the cluster. -/
theorem projectionRadius_le {c : Cluster ℝ} (h : c.Made) (input : RuptureInput ℝ)
    (hinput : input ∈ c.averagedInputs) : input.extent.projectionRadius ≤ c.maxRadius := by
  rcases h.legal with ⟨members, hlegal⟩
  rcases List.mem_map.mp hinput with ⟨bin, hbin, heq⟩
  have hgreatest := (greatestMagnitude_spec c.bins (List.ne_nil_of_mem hbin)).2 bin hbin
  rw [h.maxRadius_eq, ← heq]
  exact c.setting.projectionRadius_mono c.geometry.plane hlegal.layer hlegal.aspectRatio
    hlegal.plane.dip hgreatest

end Cluster

/-- The radius that a source keeps bounds every rupture.

    However a point source came about, no rupture of its planar enumeration, turned
    to its own dip, has a greater radius, and at least one has as great a one; and
    the radius at a magnitude grows with the magnitude. No rupture of the averaged
    planar enumeration of a cluster has corners further from its centre than the
    radius of the cluster. Behind both is that the radius grows with the magnitude
    on every plane, whatever the scaling relation. -/
theorem maxRadius_bounds :
    (∀ s : PointSource ℝ, s.Made →
      (∀ options : RuptureOptions ℝ, options.asPoint = false → ∀ r ∈ s.ruptures options,
        ∃ surface, r.surface = .planar surface ∧
          s.ruptureRadius r surface.dip ≤ s.maxRadius) ∧
      (∀ shift, ∃ r ∈ s.ruptures { magnitude := none, asPoint := false, shift := shift },
        ∃ surface, r.surface = .planar surface ∧
          s.ruptureRadius r surface.dip = s.maxRadius) ∧
      Monotone s.radiusAt) ∧
    (∀ c : Cluster ℝ, c.Made → ∀ r ∈ c.averagedRuptures false, ∃ input ∈ c.averagedInputs,
      r.surface = .planar (input.surface false) ∧
      (∀ leg ∈ (input.placement input.extent).legs,
        leg.distance = input.extent.projectionRadius) ∧
      input.extent.projectionRadius ≤ c.maxRadius) ∧
    ∀ (setting : RuptureSetting ℝ) (plane : NodalPlane ℝ), setting.upper < setting.lower →
      0 < setting.aspectRatio → 0 < plane.dip ∧ plane.dip ≤ 90 →
      Monotone fun magnitude => setting.projectionRadius magnitude plane := by
  refine ⟨fun s hs => ⟨?_, ?_, PointSource.radiusAt_mono hs.accepted⟩, fun c hc r hr => ?_,
    RuptureSetting.projectionRadius_mono⟩
  · exact PointSource.ruptureRadius_le hs
  · exact PointSource.exists_ruptureRadius_eq hs
  · rcases c.mem_averagedRuptures r hr with ⟨input, hinput, hsurface⟩
    exact ⟨input, hinput, hsurface, input.leg_distance_eq input.extent,
      Cluster.projectionRadius_le hc input hinput⟩

theorem PointSource.weightless_made (id : String) (upper : ℝ) (hupper : 0 ≤ upper) :
    (weightless id upper).Made := by
  have haccepted := weightless_accepted id upper hupper
  have hsource : ofSpec (weightless id upper).toPointSourceSpec = .ok (weightless id upper) := by
    rw [ofSpec, (PointSourceSpec.fault?_eq_none_iff _).mpr haccepted.valid]
    rfl
  rcases haccepted.planes with ⟨planes, hplanes⟩
  rcases haccepted.depths with ⟨depths, hdepths⟩
  exact Made.ofSpec _ planes depths _ hplanes hdepths hsource

theorem PointSource.totalRate_weightless (id : String) (upper : ℝ) :
    (weightless id upper).totalRate = 1 :=
  (totalRate_of_single _ 5.0 1.0 (by norm_num) rfl).trans Exact.one_eq

/-- The two layers form a cluster, which has bins. -/
theorem Cluster.form_twoLayers :
    ∃ c : Cluster ℝ, form "layers" twoLayers = .ok c ∧ c.bins ≠ [] := by
  have hagree : ∀ s ∈ (twoLayers : List (PointSource ℝ)),
      (PointSource.weightless "upper" 0.0).Agrees s := by
    simp only [twoLayers, List.forall_mem_cons, List.not_mem_nil, false_imp_iff, implies_true,
      and_true]
    exact ⟨⟨rfl, rfl, rfl⟩, rfl, rfl, rfl⟩
  rcases (form_eq_ok_iff "layers" _ _).mpr hagree with ⟨c, hc⟩
  refine ⟨c, hc, fun hnil => ?_⟩
  -- Without bins there would be no rate, but the members have one each.
  have hsum := c.sum_bins
  rw [hnil, (form_ok "layers" _ c hc).2.1] at hsum
  simp only [List.map_cons, List.map_nil, PointSource.totalRate_weightless, List.sum_cons,
    List.sum_nil] at hsum
  norm_num at hsum

/-- A source that has been asked for its radius, and the cluster of two layers, which
    has ruptures. -/
theorem maxRadius_bounds_twoLayers :
    (PointSource.weightless "upper" (0.0 : ℝ)).withRadius.Made ∧
    (∃ r ∈ (PointSource.weightless "upper" (0.0 : ℝ)).withRadius.ruptures
        { magnitude := none, asPoint := false, shift := true },
      ∃ surface, r.surface = .planar surface ∧
        (PointSource.weightless "upper" (0.0 : ℝ)).withRadius.ruptureRadius r surface.dip
          = (PointSource.weightless "upper" (0.0 : ℝ)).withRadius.maxRadius) ∧
    ∃ c : Cluster ℝ, Cluster.form "layers" twoLayers = .ok c ∧ c.withRadius.Made ∧
      c.withRadius.averagedRuptures false ≠ [] ∧
      ∀ r ∈ c.withRadius.averagedRuptures false, ∃ input ∈ c.withRadius.averagedInputs,
        r.surface = .planar (input.surface false) ∧
        input.extent.projectionRadius ≤ c.withRadius.maxRadius := by
  have hmade := PointSource.Made.withRadius _
    (PointSource.weightless_made "upper" 0.0 (by norm_num))
  have hmembers : ∀ s ∈ (twoLayers : List (PointSource ℝ)), s.Made := by
    simp only [twoLayers, List.forall_mem_cons, List.not_mem_nil, false_imp_iff, implies_true,
      and_true]
    exact ⟨PointSource.weightless_made _ _ (by norm_num),
      PointSource.weightless_made _ _ (by norm_num)⟩
  rcases Cluster.form_twoLayers with ⟨c, hc, hsome⟩
  have hcluster := Cluster.Made.withRadius c (Cluster.Made.form "layers" _ c hmembers hc)
  have hruptures : c.withRadius.averagedRuptures false ≠ [] := by
    rw [Cluster.averagedRuptures, RuptureSetting.averagedRuptures_false]
    exact List.map_eq_nil_iff.not.mpr hsome
  refine ⟨hmade, (maxRadius_bounds.1 _ hmade).2.1 true, c, hc, hcluster, hruptures, ?_⟩
  intro r hr
  rcases maxRadius_bounds.2.1 _ hcluster r hr with ⟨input, hinput, hsurface, _, hle⟩
  exact ⟨input, hinput, hsurface, hle⟩

end Seismicity
