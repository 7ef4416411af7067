import Seismicity.Proofs.Gridding.Tags
import Seismicity.Proofs.Source.Rates

/-!
# Gridding Keeps the Seismicity

In exact arithmetic the total rate of a list of sources is not changed by
gridding.

A cluster has the rates of its members, so whatever is read off a list of sources
as it is off their members is kept by clustering (`Collapsing.flatMap_perm`). The
total rate is read off in this way, and so are the ruptures of the full
enumeration.

## Main definitions

* `Gridding.totalOf`: The total rate of all point sources and clusters.
* `Gridding.memberRates`: The rates of what a source stands for.

## Theorems

* `Collapsing.totalOf_eq`: Clustering keeps the total rate.
* `Collapsing.rateSum_rupturesOf`: Clustering keeps that of the full enumeration.
* `rates_conserved`: The total rate is the same on every way.
-/

namespace Seismicity

namespace Gridding

/-- The total rate of all point sources and clusters of a list. -/
noncomputable def totalOf (sources : List (Source ℝ)) : ℝ :=
  ((sources.filterMap Source.pointLike?).map PointLike.totalRate).sum

/-- The total rates of the point sources that a source stands for. -/
noncomputable def memberRates (source : Source ℝ) : List ℝ :=
  source.pointLike?.toList.flatMap fun p => p.members.map PointSource.totalRate

theorem memberRates_cluster (c : Cluster ℝ) :
    memberRates (.cluster c) = c.members.map PointSource.totalRate :=
  List.append_nil _

/-- What a source stands for has the total rate of the source. -/
theorem sum_memberRates (source : Source ℝ) :
    (memberRates source).sum = (source.pointLike?.toList.map PointLike.totalRate).sum := by
  cases source with
  | point s => rfl
  | cluster c =>
      rw [memberRates_cluster, ← c.totalRate_eq]
      exact List.sum_singleton.symm
  | other o => rfl

theorem totalOf_eq (sources : List (Source ℝ)) :
    totalOf sources = (sources.flatMap memberRates).sum := by
  have hsums := sum_map_flatMap sources memberRates id
  rw [List.map_id] at hsums
  rw [totalOf, List.filterMap_eq_flatMap_toList, sum_map_flatMap, hsums]
  refine congrArg List.sum (List.map_congr_left fun source _ => ?_)
  rw [List.map_id, sum_memberRates]

/-- Clustering keeps the total rate. -/
theorem Collapsing.totalOf_eq {earlier later : List (Source ℝ)} {created : List (Cluster ℝ)}
    (h : Collapsing earlier later created) : totalOf later = totalOf earlier := by
  have hmembers : ∀ c : Cluster ℝ,
      memberRates (.cluster c) = c.members.flatMap fun s => memberRates (.point s) := by
    intro c
    rw [memberRates_cluster]
    exact List.map_eq_flatMap
  rw [Gridding.totalOf_eq, Gridding.totalOf_eq]
  exact (h.flatMap_perm memberRates hmembers).sum_eq

/-- Clustering keeps the rates of the full enumeration, whatever the options. -/
theorem Collapsing.rateSum_rupturesOf {earlier later : List (Source ℝ)}
    {created : List (Cluster ℝ)} (h : Collapsing earlier later created)
    (options : RuptureOptions ℝ) :
    rateSum (rupturesOf options later) = rateSum (rupturesOf options earlier) :=
  ((h.ruptures_perm options).map Rupture.rate).sum_eq

/-- Seismicity is conserved on every way through the sources.

    The full enumeration of a point source, without a magnitude to filter by, has
    its total rate times the sums of the weights of planes and of depths, and the
    averaged enumeration its total rate. For a cluster the sums are those over the
    members, on three ways: the averaged enumeration, the merged bins and the
    total rate. If the weights sum to one, the two enumerations have the same rate.
    A gridding pass that succeeds changes neither the total rate nor the rate of
    the full enumeration. -/
theorem rates_conserved (asPoint shift : Bool) :
    (∀ s : PointSource ℝ,
      rateSum (s.ruptures { magnitude := none, asPoint := asPoint, shift := shift })
        = s.totalRate * s.planes.weights.sum * s.depths.weights.sum ∧
      rateSum (s.averagedRuptures false) = s.totalRate) ∧
    (∀ c : Cluster ℝ,
      rateSum (c.ruptures { magnitude := none, asPoint := asPoint, shift := shift })
        = (c.members.map fun s =>
            s.totalRate * s.planes.weights.sum * s.depths.weights.sum).sum ∧
      rateSum (c.averagedRuptures false) = (c.members.map PointSource.totalRate).sum ∧
      (c.bins.map Bin.rate).sum = (c.members.map PointSource.totalRate).sum ∧
      c.totalRate = (c.members.map PointSource.totalRate).sum) ∧
    (∀ p : PointLike ℝ, p.Normalized →
      rateSum (p.ruptures { magnitude := none, asPoint := asPoint, shift := shift })
        = rateSum (p.averagedRuptures false)) ∧
    ∀ (sources : List (Source ℝ)) (spacing : Option ℝ) (task : Nat)
      (grouped : Grouped (Source ℝ)), gridSources sources spacing task = .ok grouped →
      totalOf grouped.toList = totalOf sources ∧
      ∀ options, rateSum (rupturesOf options grouped.toList)
        = rateSum (rupturesOf options sources) := by
  refine ⟨fun s => ⟨s.rateSum_ruptures_all asPoint shift, s.rateSum_averagedRuptures⟩,
    fun c => ⟨c.rateSum_ruptures_all asPoint shift, c.rateSum_averagedRuptures, c.sum_bins,
      c.totalRate_eq⟩, fun p hweights => ?_, fun sources spacing task grouped hok => ?_⟩
  · rw [p.rateSum_ruptures_all asPoint shift hweights, p.rateSum_averagedRuptures]
  · rcases collapsing_of_gridSources_ok sources spacing task grouped hok with ⟨created, hcreated⟩
    exact ⟨hcreated.totalOf_eq, hcreated.rateSum_rupturesOf⟩

theorem totalRate_onEquator (id : String) (group : Nat) (longitude : ℝ) :
    (onEquator id group longitude).totalRate = 1 :=
  (PointSource.totalRate_of_single _ 5.0 1.0 (by norm_num) rfl).trans Exact.one_eq

theorem totalOf_fromModels (i j : Nat) : totalOf ((fromModels i j).map .point) = 2 := by
  change [(onEquator "a" 3 0.0).totalRate, (onEquator "b" 3 0.0).totalRate].sum = 2
  rw [totalRate_onEquator, totalRate_onEquator]
  norm_num

/-- The steady source has one and a half ruptures a year on average, and one and a half in the full
    enumeration if its weights sum to one. Two such sources have three. The two ruptures a year of
    two sources at one place are those of their cluster. -/
theorem rates_conserved_steady :
    rateSum (PointSource.steady.averagedRuptures false) = 3 / 2 ∧
    rateSum (PointSource.steady.lasting.ruptures
      { magnitude := none, asPoint := false, shift := true }) = 3 / 2 ∧
    rateSum ((Cluster.ofMembers "pair" PointSource.steady.lasting
      [PointSource.steady.lasting]).averagedRuptures false) = 3 ∧
    ∃ grouped c, gridSources ((fromModels 4 4).map .point) (some 1) 7 = .ok grouped ∧
      .cluster c ∈ grouped.toList ∧ c.members = fromModels 4 4 ∧ totalOf grouped.toList = 2 := by
  rcases rates_conserved false true with ⟨hpoints, hclusters, hweights, hpasses⟩
  rcases exists_created_fromModels 4 4 with ⟨grouped, created, hok, hcreated, c, hc, _, hmembers⟩
  have hmem : .cluster c ∈ others grouped.toList :=
    hcreated.others.mem_iff.mpr (List.mem_append_right _ (List.mem_map_of_mem hc))
  refine ⟨?_, ?_, ?_, grouped, c, hok, List.mem_of_mem_filter hmem, hmembers, ?_⟩
  · rw [(hpoints _).2, PointSource.totalRate_steady]
  · have hnormalized : (PointLike.single PointSource.steady.lasting).Normalized :=
      List.forall_mem_singleton.mpr PointSource.steady.weights_lasting
    exact ((hweights _ hnormalized).trans (hpoints _).2).trans PointSource.totalRate_steady
  · rw [(hclusters _).2.1]
    change [PointSource.steady.totalRate, PointSource.steady.totalRate].sum = 3
    rw [PointSource.totalRate_steady]
    norm_num
  · rw [(hpasses _ _ _ _ hok).1, totalOf_fromModels]

end Gridding

end Seismicity
