import Seismicity.Proofs.Exact.Means
import Seismicity.Proofs.Rupture.Layer
import Seismicity.Proofs.Source.Acceptance
import Seismicity.Proofs.Source.Agreement
import Seismicity.Proofs.Source.Rates

/-!
# Averaged Geometry

Averages of accepted sources are as good as what they are averages of.

An averaged plane is not checked again, nor is an averaged layer. None of the
checks could fail. A source is accepted only if its planes and depths are in
their ranges; means over planes and depths stay in these ranges, which are
intervals; and means over sources stay in them once more. The bounds on the
layer are not intervals of one number but an order between several, upper edge,
hypocentral depth and lower edge. Such an order is kept because the means are
taken with the same weights.

Strictness needs care. The dip is positive and the lower edge is below the upper
one, and so they are on average, though some weights may be zero.

## Main definitions

* `AverageGeometry.rated`: Sources with what they are weighted by.
* `AverageGeometry.Legal`: The geometry is one that a source could have.
* `twoLayers`: Two sources without any weights.

## Theorems

* `NodalPlane.inRange_of_isMean`: Means of legal planes are legal.
* `PointSource.averagePlane_inRange`, `PointSource.averageHypocenter_depth`: The
  averages of one source.
* `AverageGeometry.mean_eq`, `AverageGeometry.isMean_mean`: Means over sources.
* `AverageGeometry.meanOf_legal`: The mean geometry of accepted sources.
* `Cluster.mem_averagedRuptures`: The planes of the averaged enumeration.
* `averages_legal`: Averages of accepted sources are legal.
-/

namespace Seismicity

/-- The mean over an accepted probability mass function is a mean of its values. -/
theorem Pmf.isMean_average_of_ofEntries {β : Type} (entries : List (ℝ × β)) (p : Pmf ℝ β)
    (h : ofEntries entries = .ok p) : Exact.IsMean (p.entries.map Prod.snd) p.average := by
  rcases (ofEntries_eq_ok_iff entries p).mp h with ⟨heq, hne, husable⟩
  rw [← heq] at hne husable
  exact p.isMean_average hne fun entry hentry => (usable_iff _).mp (husable entry hentry)

/-- A plane whose angles are means of those of legal planes is legal. -/
theorem NodalPlane.inRange_of_isMean {β : Type} {values : List β} {mean : (β → ℝ) → ℝ}
    (hmean : Exact.IsMean values mean) (plane : β → NodalPlane ℝ)
    (hplane : ∀ x ∈ values, (plane x).InRange) :
    InRange ⟨mean fun x => (plane x).strike, mean fun x => (plane x).dip,
      mean fun x => (plane x).rake⟩ where
  strike := ⟨hmean.const_le fun x hx => (hplane x hx).strike.1,
    hmean.lt_const fun x hx => (hplane x hx).strike.2⟩
  dip := ⟨hmean.const_lt fun x hx => (hplane x hx).dip.1,
    hmean.le_const fun x hx => (hplane x hx).dip.2⟩
  rake := ⟨hmean.const_le fun x hx => (hplane x hx).rake.1,
    hmean.le_const fun x hx => (hplane x hx).rake.2⟩

namespace PointSource

variable {s : PointSource ℝ} (h : s.Accepted)

include h

theorem isMean_planes : Exact.IsMean (s.planes.entries.map Prod.snd) s.planes.average := by
  rcases h.planes with ⟨entries, hentries⟩
  exact Pmf.isMean_average_of_ofEntries entries s.planes hentries

theorem isMean_depths : Exact.IsMean (s.depths.entries.map Prod.snd) s.depths.average := by
  rcases h.depths with ⟨entries, hentries⟩
  exact Pmf.isMean_average_of_ofEntries entries s.depths hentries

theorem planes_inRange : ∀ plane ∈ s.planes.entries.map Prod.snd, plane.InRange := by
  rw [List.forall_mem_map]
  intro entry hentry
  exact (NodalPlane.fault?_eq_none_iff_inRange _).mp (h.valid.planes entry hentry)

theorem depths_inLayer : ∀ depth ∈ s.depths.entries.map Prod.snd,
    s.upper ≤ depth ∧ depth ≤ s.lower := by
  rw [List.forall_mem_map]
  exact h.valid.depths

/-- The mean plane of an accepted source is a legal plane. -/
theorem averagePlane_inRange : s.averagePlane.InRange :=
  NodalPlane.inRange_of_isMean (isMean_planes h) (fun plane => plane) (planes_inRange h)

/-- The mean hypocentral depth of an accepted source is in its layer. -/
theorem averageHypocenter_depth :
    s.upper ≤ s.averageHypocenter.depth ∧ s.averageHypocenter.depth ≤ s.lower :=
  ⟨(isMean_depths h).const_le fun depth hdepth => (depths_inLayer h depth hdepth).1,
    (isMean_depths h).le_const fun depth hdepth => (depths_inLayer h depth hdepth).2⟩

end PointSource

theorem PointSource.totalRate_nonneg (s : PointSource ℝ) : 0 ≤ s.totalRate := by
  rw [totalRate_eq]
  refine List.sum_nonneg ?_
  rw [List.forall_mem_map]
  intro bin hbin
  have hpositive := (List.mem_filter.mp hbin).2
  rw [Exact.zero_eq, decide_eq_true_eq] at hpositive
  exact hpositive.le

namespace AverageGeometry

/-- The sources with their total rates. -/
noncomputable def rated (sources : List (PointSource ℝ)) : List (ℝ × PointSource ℝ) :=
  sources.map fun s => (s.totalRate, s)

theorem sum_rated (sources : List (PointSource ℝ)) :
    ((rated sources).map Prod.fst).sum = Scalar.sum (sources.map PointSource.totalRate) := by
  rw [Exact.sum_eq, rated, List.map_map]
  rfl

theorem mean_eq (sources : List (PointSource ℝ)) (property : PointSource ℝ → ℝ) :
    mean sources property = Exact.weightedMean (Exact.spread (rated sources)) property := by
  have hfold : ∀ pairs : List (ℝ × ℝ),
      pairs.foldl (fun sum (weight, value) => sum + weight * value) 0.0
        = (pairs.map fun pair => pair.1 * pair.2).sum := by
    intro pairs
    rw [List.sum_eq_foldl, List.foldl_map, Exact.zero_eq]
  have hmean : mean sources property
      = (((weights sources).zip (sources.map property)).map fun pair => pair.1 * pair.2).sum
        / totalWeight sources := congrArg (· / totalWeight sources) (hfold _)
  rw [hmean, Exact.weightedMean_spread, sum_rated, weights, totalWeight, Exact.zero_eq]
  -- The weights, their sum and the entries that are spread over all make the same
  -- test, so one case split settles the three.
  by_cases htotal : 0 < Scalar.sum (sources.map PointSource.totalRate)
  · rw [if_pos htotal, if_pos htotal, if_pos htotal, List.zip_map', List.map_map, rated,
      List.map_map]
    rfl
  · have hvalues : (sources.map ((fun pair : ℝ × ℝ => pair.1 * pair.2) ∘
        fun s => ((1 : ℝ), property s))) = sources.map property :=
      List.map_congr_left fun s _ => one_mul _
    have hlength : (rated sources).length = sources.length := List.length_map _
    rw [if_neg htotal, if_neg htotal, if_neg htotal, List.map_map, List.zip_map', List.map_map,
      hlength, Exact.one_eq]
    refine congrArg (· / (sources.length : ℝ)) (congrArg List.sum (hvalues.trans ?_))
    rw [rated, List.map_map]
    rfl

/-- Means over sources are means. -/
theorem isMean_mean (sources : List (PointSource ℝ)) (hne : sources ≠ []) :
    Exact.IsMean sources (mean sources) := by
  have heq : mean sources = Exact.weightedMean (Exact.spread (rated sources)) :=
    funext (mean_eq sources)
  have hvalues : (rated sources).map Prod.snd = sources := by
    rw [rated, List.map_map]
    exact List.map_id sources
  have hmean := Exact.isMean_spread (rated sources)
    (List.map_eq_nil_iff.not.mpr hne) (List.forall_mem_map.mpr fun s _ => s.totalRate_nonneg)
  rw [hvalues, ← heq] at hmean
  exact hmean

/-- The geometry is one that a source could have, at a place among those of the
    sources: no further out than rounding to six decimals may bring it. -/
structure Legal (g : AverageGeometry ℝ) (sources : List (PointSource ℝ)) : Prop where
  plane : g.plane.InRange
  layer : g.upper < g.lower
  elevation : earthElevation < g.upper
  depth : g.upper ≤ g.depth ∧ g.depth ≤ g.lower
  aspectRatio : 0 < g.aspectRatio
  west : ∃ s ∈ sources, s.location.longitude - 1 / 2 / 10 ^ 6 ≤ g.longitude
  east : ∃ s ∈ sources, g.longitude ≤ s.location.longitude + 1 / 2 / 10 ^ 6
  south : ∃ s ∈ sources, s.location.latitude - 1 / 2 / 10 ^ 6 ≤ g.latitude
  north : ∃ s ∈ sources, g.latitude ≤ s.location.latitude + 1 / 2 / 10 ^ 6

/-- A rounded mean is no further out than half a unit of the sixth decimal. -/
theorem roundTo6_mean (sources : List (PointSource ℝ)) (hne : sources ≠ [])
    (f : PointSource ℝ → ℝ) :
    (∃ s ∈ sources, f s - 1 / 2 / 10 ^ 6 ≤ Scalar.roundTo6 (mean sources f)) ∧
      ∃ s ∈ sources, Scalar.roundTo6 (mean sources f) ≤ f s + 1 / 2 / 10 ^ 6 := by
  have hmean := isMean_mean sources hne
  have hround := abs_le.mp (Exact.abs_roundTo6_sub_le (mean sources f))
  -- The mean lies between two of the values, and rounding moves it by half a unit.
  rcases hmean.exists_le (f := f) with ⟨s, hs, hle⟩
  rcases hmean.exists_ge (f := f) with ⟨t, ht, hge⟩
  exact ⟨⟨s, hs, by linarith⟩, t, ht, by linarith⟩

/-- The mean geometry of accepted sources is legal. -/
theorem meanOf_legal (sources : List (PointSource ℝ)) (hne : sources ≠ [])
    (haccepted : ∀ s ∈ sources, s.Accepted) : (meanOf sources).Legal sources := by
  have hmean := isMean_mean sources hne
  have hplane : ∀ s ∈ sources, s.averagePlane.InRange :=
    fun s hs => PointSource.averagePlane_inRange (haccepted s hs)
  have hdepth : ∀ s ∈ sources,
      s.upper ≤ s.averageHypocenter.depth ∧ s.averageHypocenter.depth ≤ s.lower :=
    fun s hs => PointSource.averageHypocenter_depth (haccepted s hs)
  exact
    { plane := NodalPlane.inRange_of_isMean hmean _ hplane
      layer := hmean.strictMono _ _ fun s hs => (haccepted s hs).valid.layer
      elevation := hmean.const_lt fun s hs => (haccepted s hs).valid.elevation
      depth := ⟨hmean.mono _ _ fun s hs => (hdepth s hs).1,
        hmean.mono _ _ fun s hs => (hdepth s hs).2⟩
      aspectRatio := hmean.const_lt fun s hs =>
        Exact.zero_eq.symm.le.trans_lt (haccepted s hs).valid.aspectRatio
      west := (roundTo6_mean sources hne _).1
      east := (roundTo6_mean sources hne _).2
      south := (roundTo6_mean sources hne _).1
      north := (roundTo6_mean sources hne _).2 }

theorem of_ok (sources : List (PointSource ℝ)) (g : AverageGeometry ℝ) (h : of sources = .ok g) :
    sources ≠ [] ∧ g = meanOf sources := by
  rw [of] at h
  cases hfault : fault? sources with
  | some fault =>
      rw [hfault] at h
      exact absurd h (by simp only [reduceCtorEq, not_false_eq_true])
  | none =>
      rw [hfault, Except.ok.injEq] at h
      refine ⟨fun hnil => ?_, h.symm⟩
      rw [hnil, fault?] at hfault
      exact absurd hfault (by simp only [reduceCtorEq, not_false_eq_true])

end AverageGeometry

namespace Cluster

/-- The ruptures of the averaged planar enumeration have the surfaces of its
    inputs. -/
theorem mem_averagedRuptures (c : Cluster ℝ) (r : Rupture ℝ) (h : r ∈ c.averagedRuptures false) :
    ∃ input ∈ c.averagedInputs, r.surface = .planar (input.surface false) := by
  rw [averagedRuptures, RuptureSetting.averagedRuptures_false, List.mem_map] at h
  rcases h with ⟨bin, hbin, hr⟩
  refine ⟨_, List.mem_map_of_mem hbin, ?_⟩
  rw [← hr]
  rfl

/-- The geometry of a cluster is the mean geometry of what it was formed from. -/
theorem form_geometry (id : String) (sources : List (PointSource ℝ)) (c : Cluster ℝ)
    (h : form id sources = .ok c) : sources ≠ [] ∧ c.geometry = AverageGeometry.meanOf sources := by
  rcases form_ok id sources c h with ⟨_, hmembers, first, rest, hc, _⟩
  have hsources : first :: rest = sources := by
    rw [← hmembers, hc]
    rfl
  rw [← hsources, hc]
  exact ⟨List.cons_ne_nil _ _, rfl⟩

/-- With a legal geometry, the averaged enumeration has inputs that an extent can
    be computed for. -/
theorem averagedInputs_admissible (c : Cluster ℝ) (sources : List (PointSource ℝ))
    (h : c.geometry.Legal sources) (input : RuptureInput ℝ) (hinput : input ∈ c.averagedInputs) :
    input.Admissible ∧ input.upper = c.geometry.upper ∧ input.lower = c.geometry.lower := by
  rcases List.mem_map.mp hinput with ⟨bin, _, hbin⟩
  rw [← hbin]
  exact ⟨c.setting.input_admissible bin.magnitude c.geometry.plane c.location h.layer
    h.aspectRatio h.plane, rfl, rfl⟩

end Cluster

theorem PointSource.weightless_valid (id : String) (upper : ℝ) (hupper : 0 ≤ upper) :
    (weightless id upper).toPointSourceSpec.Valid where
  layer := lt_add_of_pos_right upper (by norm_num)
  depths := by
    have hlayer : upper ≤ upper + 10.0 := le_add_of_nonneg_right (by norm_num)
    simp only [weightless, List.forall_mem_cons, List.not_mem_nil, false_imp_iff, implies_true,
      and_true]
    exact ⟨⟨le_refl _, hlayer⟩, hlayer, le_refl _⟩
  elevation := by
    change (-8.848 : ℝ) < upper
    exact lt_of_lt_of_le (by norm_num) hupper
  longitude := rfl
  latitude := rfl
  planes := by
    simp only [weightless, List.forall_mem_cons, List.not_mem_nil, false_imp_iff, implies_true,
      and_true, NodalPlane.fault?_eq_none_iff_inRange]
    constructor <;> constructor <;> norm_num
  aspectRatio := by
    change (0.0 : ℝ) < 1.0
    norm_num
  finiteRatio := rfl
  meshSpacing := by
    change (0.0 : ℝ) < 1.0
    norm_num
  recurrence := by
    have hrate : ¬ (1.0 : ℝ) < 0.0 := by norm_num
    change Recurrence.ratesFault? [(1.0 : ℝ)] = none
    simp only [Recurrence.ratesFault?, List.any_cons, List.any_nil, hrate, decide_false]
    rfl
  rate := by
    refine ⟨⟨5.0, 1.0⟩, List.mem_singleton_self _, ?_⟩
    change ¬ (1.0 : ℝ) ≤ 0.0
    norm_num

theorem PointSource.weightless_accepted (id : String) (upper : ℝ) (hupper : 0 ≤ upper) :
    (weightless id upper).Accepted where
  planes := by
    refine ⟨_, (Pmf.ofEntries_eq_ok_iff _ _).mpr ⟨rfl, List.cons_ne_nil _ _, ?_⟩⟩
    simp only [weightless, List.forall_mem_cons, List.not_mem_nil, false_imp_iff, implies_true,
      and_true, Pmf.usable_iff]
    norm_num
  depths := by
    refine ⟨_, (Pmf.ofEntries_eq_ok_iff _ _).mpr ⟨rfl, List.cons_ne_nil _ _, ?_⟩⟩
    simp only [weightless, List.forall_mem_cons, List.not_mem_nil, false_imp_iff, implies_true,
      and_true, Pmf.usable_iff]
    norm_num
  source := by
    refine ⟨(weightless id upper).toPointSourceSpec, weightless id upper, ?_, rfl⟩
    rw [ofSpec, (PointSourceSpec.fault?_eq_none_iff _).mpr (weightless_valid id upper hupper)]
    rfl

/-- Two layers, one 10 km below the other, and no weights to take means with. -/
def twoLayers {α : Type} [Scalar α] : List (PointSource α) :=
  [.weightless "upper" 0.0, .weightless "lower" 20.0]

/-- Averages of accepted sources are legal.

    The mean plane of an accepted source passes the checks of a plane, and its mean
    depth is in its layer. The mean geometry of accepted sources is legal, if they
    have one. So the inputs of the averaged planar enumeration of a cluster are
    admissible, and the corners of its ruptures lie in the averaged layer. -/
theorem averages_legal (sources : List (PointSource ℝ))
    (haccepted : ∀ s ∈ sources, s.Accepted) :
    (∀ s ∈ sources,
      NodalPlane.checked s.averagePlane.strike s.averagePlane.dip s.averagePlane.rake
        = .ok s.averagePlane ∧
      s.averagePlane.InRange ∧
      s.upper ≤ s.averageHypocenter.depth ∧ s.averageHypocenter.depth ≤ s.lower) ∧
    (∀ g, AverageGeometry.of sources = .ok g → g.Legal sources) ∧
    ∀ id c, Cluster.form id sources = .ok c →
      c.geometry.Legal sources ∧
      ∀ r ∈ c.averagedRuptures false, ∃ input ∈ c.averagedInputs,
        input.Admissible ∧ r.surface = .planar (input.surface false) ∧
        ∀ corner ∈ (input.surface false).corners,
          c.geometry.upper ≤ corner.depth ∧ corner.depth ≤ c.geometry.lower := by
  refine ⟨fun s hs => ?_, fun g hg => ?_, fun id c hc => ?_⟩
  -- The averages of one source.
  · have hplane := PointSource.averagePlane_inRange (haccepted s hs)
    exact ⟨NodalPlane.checked_eq_ok _ _ _ hplane, hplane,
      PointSource.averageHypocenter_depth (haccepted s hs)⟩
  -- The averages of several.
  · rcases AverageGeometry.of_ok sources g hg with ⟨hne, hmean⟩
    rw [hmean]
    exact AverageGeometry.meanOf_legal sources hne haccepted
  -- What follows for the ruptures that are laid out with them.
  · rcases Cluster.form_geometry id sources c hc with ⟨hne, hmean⟩
    have hlegal : c.geometry.Legal sources :=
      hmean ▸ AverageGeometry.meanOf_legal sources hne haccepted
    refine ⟨hlegal, fun r hr => ?_⟩
    rcases c.mem_averagedRuptures r hr with ⟨input, hinput, hsurface⟩
    rcases c.averagedInputs_admissible sources hlegal input hinput with ⟨hadm, hupper, hlower⟩
    have hcorners := RuptureInput.surfaceOf_corners_in_layer input input.extent
      (RuptureInput.extent_vertical_le hadm) (RuptureInput.extent_vertical_pos hadm).le
    rw [hupper, hlower] at hcorners
    exact ⟨input, hinput, hadm, hsurface, hcorners⟩

/-- The two layers form a cluster, and its geometry is legal. -/
theorem averages_legal_twoLayers :
    (∀ s ∈ (twoLayers : List (PointSource ℝ)), s.Accepted) ∧
      ∃ c, Cluster.form "layers" (twoLayers : List (PointSource ℝ)) = .ok c ∧
        c.geometry.Legal twoLayers := by
  have haccepted : ∀ s ∈ (twoLayers : List (PointSource ℝ)), s.Accepted := by
    simp only [twoLayers, List.forall_mem_cons, List.not_mem_nil, false_imp_iff, implies_true,
      and_true]
    exact ⟨PointSource.weightless_accepted _ _ (by norm_num),
      PointSource.weightless_accepted _ _ (by norm_num)⟩
  have hagree : ∀ s ∈ (twoLayers : List (PointSource ℝ)),
      (PointSource.weightless "upper" 0.0).Agrees s := by
    simp only [twoLayers, List.forall_mem_cons, List.not_mem_nil, false_imp_iff, implies_true,
      and_true]
    exact ⟨⟨rfl, rfl, rfl⟩, rfl, rfl, rfl⟩
  rcases (Cluster.form_eq_ok_iff "layers" _ _).mpr hagree with ⟨c, hc⟩
  exact ⟨haccepted, c, hc, ((averages_legal _ haccepted).2.2 "layers" c hc).1⟩

end Seismicity
