import Mathlib.Algebra.BigOperators.Ring.List
import Seismicity.Proofs.Exact.Real
import Seismicity.Source.Basic

/-!
# Total Rates

In exact arithmetic every enumeration of a source carries its total rate.

The rates of the full enumeration are summed from the inside out. Over the bins
the two weights are common factors, over the depths the weight of the plane is,
and so the sum is the product of three sums, whatever the weights come to. The
averaged enumeration takes the bins as they are. For a cluster its bins are those
of the members sorted and merged: sorting permutes them, and a merge adds the two
rates before the merged bin is added up.

## Main definitions

* `rateSum`: The sum of the rates of ruptures.
* `PointSource.weightedRate`: The total rate times the sums of the weights.
* `PointLike.members`, `PointLike.Normalized`: All weights sum to one.
* `PointSource.weightless`, `PointSource.steady`: Sources without any weights.
* `PointSource.lasting`: A source with weights that sum to one, over fifty years.

## Theorems

* `sum_map_flatMap`: Sums over joined lists.
* `RuptureSetting.averagedRuptures_false`: The averaged planes, one for each bin.
* `PointSource.bins_eq`, `PointSource.totalRate_of_single`: Rates that are all positive.
* `PointSource.weightedRate_eq`: Weights that sum to one.
* `PointSource.rateSum_ruptures`: The sum of the full enumeration.
* `sum_mergeBins`, `sum_mergedBins`: Merging keeps the sum.
* `Cluster.sum_bins`: The sum of the merged rates.
* `PointLike.rateSum_averagedRuptures`, `PointLike.rateSum_ruptures_all`: Both
  enumerations carry the total rate.
-/

namespace Seismicity

/-- The sum of the rates of ruptures. -/
noncomputable def rateSum (ruptures : List (Rupture ℝ)) : ℝ := (ruptures.map Rupture.rate).sum

/-- A sum over joined lists is the sum of the sums. -/
theorem sum_map_flatMap {β γ : Type} (xs : List β) (f : β → List γ) (g : γ → ℝ) :
    ((xs.flatMap f).map g).sum = (xs.map fun x => ((f x).map g).sum).sum := by
  induction xs with
  | nil => rfl
  | cons x rest ih =>
      rw [List.flatMap_cons, List.map_append, List.sum_append, ih, List.map_cons, List.sum_cons]

theorem rateSum_flatMap {β : Type} (xs : List β) (f : β → List (Rupture ℝ)) :
    rateSum (xs.flatMap f) = (xs.map fun x => rateSum (f x)).sum :=
  sum_map_flatMap xs f Rupture.rate

/-- The rate of a rupture is the one it was given. -/
theorem RuptureSetting.rupture_rate {α : Type} [Scalar α] (setting : RuptureSetting α)
    (magnitude rate : α) (plane : NodalPlane α) (hypocenter : Point α) (asPoint shift : Bool) :
    (setting.rupture magnitude rate plane hypocenter asPoint shift).rate = rate := by
  cases asPoint with
  | true => rfl
  | false => rfl

/-- Taking every first entry takes all. -/
theorem everyNth_one {β : Type} (xs : List β) : everyNth 1 xs = xs := by
  induction xs with
  | nil => rw [everyNth]
  | cons x rest ih => rw [everyNth, Nat.sub_self, List.drop_zero, ih]

/-- The averaged enumeration of planes has one rupture for each bin. -/
theorem RuptureSetting.averagedRuptures_false {α : Type} [Scalar α] (setting : RuptureSetting α)
    (bins : List (Bin α)) (plane : NodalPlane α) (hypocenter : Point α) :
    setting.averagedRuptures bins plane hypocenter false = bins.map fun bin =>
      setting.rupture bin.magnitude bin.rate plane hypocenter false false := by
  rw [averagedRuptures, if_neg Bool.false_ne_true, everyNth_one]

theorem RuptureSetting.rateSum_averagedRuptures (setting : RuptureSetting ℝ)
    (bins : List (Bin ℝ)) (plane : NodalPlane ℝ) (hypocenter : Point ℝ) :
    rateSum (setting.averagedRuptures bins plane hypocenter false) = (bins.map Bin.rate).sum := by
  rw [averagedRuptures_false, rateSum, List.map_map]
  exact congrArg List.sum (List.map_congr_left fun bin _ => setting.rupture_rate _ _ _ _ _ _)

namespace PointSource

variable (s : PointSource ℝ)

theorem totalRate_eq : s.totalRate = (s.bins.map Bin.rate).sum := Exact.sum_eq _

/-- If all rates are positive, no magnitude is left out. -/
theorem bins_eq (h : ∀ bin ∈ s.recurrence.bins, 0 < bin.rate) : s.bins = s.recurrence.bins :=
  List.filter_eq_self.mpr fun bin hbin => decide_eq_true (Exact.zero_eq.trans_lt (h bin hbin))

/-- The total rate of a source with one magnitude. -/
theorem totalRate_of_single (magnitude rate : ℝ) (hrate : 0 < rate)
    (h : s.recurrence.bins = [⟨magnitude, rate⟩]) : s.totalRate = rate := by
  have hall : ∀ bin ∈ s.recurrence.bins, 0 < bin.rate := by
    rw [h, List.forall_mem_singleton]
    exact hrate
  rw [totalRate_eq, s.bins_eq hall, h, List.map_singleton, List.sum_singleton]

/-- The total rate times the sums of both kinds of weights. -/
noncomputable def weightedRate : ℝ := s.totalRate * s.planes.weights.sum * s.depths.weights.sum

/-- Weights that sum to one leave the total rate as it is. -/
theorem weightedRate_eq (h : s.planes.weights.sum = 1 ∧ s.depths.weights.sum = 1) :
    s.weightedRate = s.totalRate := by
  rw [weightedRate, h.1, h.2, mul_one, mul_one]

/-- The full enumeration has the rate of the selected bins times the sums of the
    weights. -/
theorem rateSum_ruptures (options : RuptureOptions ℝ) :
    rateSum (s.ruptures options)
      = ((s.selectedBins options).map Bin.rate).sum * s.planes.weights.sum
        * s.depths.weights.sum := by
  -- From the inside out: the bins, then the depths, then the planes.
  have hbins : ∀ (plane : ℝ × NodalPlane ℝ) (depth : ℝ × ℝ),
      rateSum ((s.selectedBins options).map fun bin =>
        s.setting.rupture bin.magnitude (bin.rate * plane.1 * depth.1) plane.2
          (s.location.atDepth depth.2) options.asPoint options.shift)
      = ((s.selectedBins options).map Bin.rate).sum * plane.1 * depth.1 := by
    intro plane depth
    rw [rateSum, List.map_map, ← List.sum_map_mul_right, ← List.sum_map_mul_right]
    exact congrArg List.sum (List.map_congr_left fun bin _ => s.setting.rupture_rate _ _ _ _ _ _)
  have hdepths : ∀ plane : ℝ × NodalPlane ℝ,
      rateSum (s.depths.entries.flatMap fun depth => (s.selectedBins options).map fun bin =>
        s.setting.rupture bin.magnitude (bin.rate * plane.1 * depth.1) plane.2
          (s.location.atDepth depth.2) options.asPoint options.shift)
      = ((s.selectedBins options).map Bin.rate).sum * plane.1 * s.depths.weights.sum := by
    intro plane
    rw [rateSum_flatMap, Pmf.weights, ← List.sum_map_mul_left]
    exact congrArg List.sum (List.map_congr_left fun depth _ => hbins plane depth)
  calc
    rateSum (s.ruptures options)
        = (s.planes.entries.map fun plane =>
            ((s.selectedBins options).map Bin.rate).sum * plane.1 * s.depths.weights.sum).sum :=
      (rateSum_flatMap _ _).trans
        (congrArg List.sum (List.map_congr_left fun plane _ => hdepths plane))
    _ = ((s.selectedBins options).map Bin.rate).sum * s.planes.weights.sum
        * s.depths.weights.sum := by
      rw [List.sum_map_mul_right, List.sum_map_mul_left, Pmf.weights, Pmf.weights]

theorem rateSum_ruptures_all (asPoint shift : Bool) :
    rateSum (s.ruptures { magnitude := none, asPoint := asPoint, shift := shift })
      = s.weightedRate := by
  rw [rateSum_ruptures, weightedRate, totalRate_eq, selectedBins]

theorem rateSum_averagedRuptures : rateSum (s.averagedRuptures false) = s.totalRate := by
  rw [averagedRuptures, RuptureSetting.rateSum_averagedRuptures, totalRate_eq]

end PointSource

/-- Merging keeps the sum of the rates. -/
theorem sum_mergeBins (bins : List (Bin ℝ)) :
    ∀ m rate : ℝ, ((mergeBins m rate bins).map Bin.rate).sum = rate + (bins.map Bin.rate).sum := by
  induction bins with
  | nil =>
      intro m rate
      rw [mergeBins, List.map_singleton, List.sum_singleton, List.map_nil, List.sum_nil, add_zero]
  | cons bin rest ih =>
      intro m rate
      rw [mergeBins, List.map_cons, List.sum_cons]
      by_cases hnear : Scalar.abs (bin.magnitude - m) < magnitudeTolerance
      · rw [if_pos hnear, ih]
        exact add_assoc rate bin.rate _
      · rw [if_neg hnear, List.map_cons, List.sum_cons, ih]

theorem sum_mergedBins (bins : List (Bin ℝ)) :
    ((mergedBins bins).map Bin.rate).sum = (bins.map Bin.rate).sum := by
  -- What is merged is a permutation of the bins.
  have hsorted := (List.mergeSort_perm bins
    fun a b => Scalar.sortsBefore a.magnitude b.magnitude).map Bin.rate
  rw [← hsorted.sum_eq, mergedBins]
  cases bins.mergeSort fun a b => Scalar.sortsBefore a.magnitude b.magnitude with
  | nil => rfl
  | cons bin rest => rw [sum_mergeBins, List.map_cons, List.sum_cons]

namespace Cluster

variable (c : Cluster ℝ)

theorem totalRate_eq : c.totalRate = (c.members.map PointSource.totalRate).sum := Exact.sum_eq _

theorem sum_bins : (c.bins.map Bin.rate).sum = (c.members.map PointSource.totalRate).sum := by
  rw [bins, sum_mergedBins, sum_map_flatMap]
  exact congrArg List.sum (List.map_congr_left fun s _ => s.totalRate_eq.symm)

theorem rateSum_ruptures_all (asPoint shift : Bool) :
    rateSum (c.ruptures { magnitude := none, asPoint := asPoint, shift := shift })
      = (c.members.map PointSource.weightedRate).sum := by
  rw [ruptures, rateSum_flatMap]
  exact congrArg List.sum (List.map_congr_left fun s _ => s.rateSum_ruptures_all asPoint shift)

theorem rateSum_averagedRuptures :
    rateSum (c.averagedRuptures false) = (c.members.map PointSource.totalRate).sum := by
  rw [averagedRuptures, RuptureSetting.rateSum_averagedRuptures, sum_bins]

end Cluster

namespace PointLike

/-- The point sources that are viewed. -/
def members {α : Type} : PointLike α → List (PointSource α)
  | .single s => [s]
  | .clustered c => c.members

/-- The weights of planes and of depths sum to one. -/
def Normalized (p : PointLike ℝ) : Prop :=
  ∀ s ∈ p.members, s.planes.weights.sum = 1 ∧ s.depths.weights.sum = 1

variable (p : PointLike ℝ)

theorem rateSum_averagedRuptures : rateSum (p.averagedRuptures false) = p.totalRate := by
  cases p with
  | single s => exact s.rateSum_averagedRuptures
  | clustered c => exact c.rateSum_averagedRuptures.trans c.totalRate_eq.symm

theorem rateSum_ruptures_all (asPoint shift : Bool) (h : p.Normalized) :
    rateSum (p.ruptures { magnitude := none, asPoint := asPoint, shift := shift })
      = p.totalRate := by
  have hweighted : ∀ s ∈ p.members, s.weightedRate = s.totalRate :=
    fun s hs => s.weightedRate_eq (h s hs)
  cases p with
  | single s =>
      exact (s.rateSum_ruptures_all asPoint shift).trans (hweighted s List.mem_cons_self)
  | clustered c =>
      refine (c.rateSum_ruptures_all asPoint shift).trans (Eq.trans ?_ c.totalRate_eq.symm)
      exact congrArg List.sum (List.map_congr_left hweighted)

end PointLike

/-- A source on the 10 km below a depth, none of whose planes and depths has any
    weight. -/
def PointSource.weightless {α : Type} [Scalar α] (id : String) (upper : α) : PointSource α :=
  { id := id
    name := "weightless"
    region := "Stable Shallow Crust"
    recurrence := .arbitrary [5.0] [1.0]
    meshSpacing := 1.0
    scaling := .peer
    aspectRatio := 1.0
    occurrence := none
    upper := upper
    lower := upper + 10.0
    location := { longitude := upper, latitude := 45.0, depth := 0.0 }
    planes := { entries := [(0.0, { strike := 0.0, dip := 90.0, rake := 0.0 }),
      (0.0, { strike := 350.0, dip := 30.0, rake := -90.0 })] }
    depths := { entries := [(0.0, upper), (0.0, upper + 10.0)] }
    group := 0
    modelIndex := 0
    radius := none }

namespace PointSource

/-- A source with two magnitudes, one of them half as frequent as the other. -/
noncomputable def steady : PointSource ℝ :=
  { weightless "steady" 0.0 with recurrence := .arbitrary [5.0, 6.0] [1.0, 0.5] }

theorem bins_steady : steady.bins = [⟨5.0, 1.0⟩, ⟨6.0, 0.5⟩] := by
  have hrates : ∀ bin ∈ [(⟨5.0, 1.0⟩ : Bin ℝ), ⟨6.0, 0.5⟩], 0 < bin.rate := by
    rw [List.forall_mem_cons, List.forall_mem_singleton]
    norm_num
  exact steady.bins_eq hrates

theorem totalRate_steady : steady.totalRate = 3 / 2 := by
  rw [totalRate_eq, bins_steady]
  norm_num

/-- The source with a distribution of two planes and one of two depths, over fifty years. -/
noncomputable def lasting (s : PointSource ℝ) : PointSource ℝ :=
  { s with
    occurrence := some { timeSpan := 50.0 }
    planes := { entries := [(0.5, { strike := 0.0, dip := 90.0, rake := 0.0 }),
      (0.5, { strike := 350.0, dip := 30.0, rake := -90.0 })] }
    depths := { entries := [(0.25, s.upper), (0.75, s.lower)] } }

theorem weights_lasting (s : PointSource ℝ) :
    s.lasting.planes.weights.sum = 1 ∧ s.lasting.depths.weights.sum = 1 := by
  constructor
  · change ([0.5, 0.5] : List ℝ).sum = 1
    norm_num
  · change ([0.25, 0.75] : List ℝ).sum = 1
    norm_num

end PointSource

end Seismicity
