import Seismicity.Proofs.Recurrence.Ascending
import Seismicity.Proofs.Source.Order

/-!
# Copies of One Source

In exact arithmetic, collapsing copies of one source only scales its rates.

A source has its averages taken over its own planes and depths, a cluster over its
members. The two are computed in different ways, but a mean of equal values is that value,
whatever the weights, so that a cluster of copies has the plane, the layer and the location
of the source, rounded as the source rounds it (`meanOf_replicate`).

The bins of the copies are sorted before they are merged. The source has its bins in
ascending order already, so sorting brings together the copies of each bin, first those of
the least magnitude. Merging adds the rates of these, and it must not go on into the next
magnitude: that is why the magnitudes have to be a tolerance apart
(`mergedBins_replicate`).

What is computed from the bins takes the rates along as they are (`averagedRuptures_map`).

## Main definitions

* `Bin.scaled`, `Rupture.scaled`: A bin and a rupture at a multiple of its rate.
* `Bin.Apart`: The magnitudes of bins are at least a tolerance apart.

## Theorems

* `mergedBins_of_ascending`: Bins that are in order need no sorting.
* `mergeSorted_replicate`, `mergedBins_replicate`: Copies of bins, merged.
* `everyNth_map`: Taking every so many entries of a list that is mapped.
* `RuptureSetting.averagedRuptures_map`: Scaled bins have scaled ruptures.
* `AverageGeometry.meanOf_replicate`: The mean geometry of copies.
* `Cluster.form_replicate`: What a cluster of copies has in common with the source.
* `Cluster.form_copies`: Collapsing copies scales the rates.
-/

namespace Seismicity

/-- The bin at a multiple of its rate. -/
def Bin.scaled {α : Type} [Scalar α] (factor : α) (bin : Bin α) : Bin α :=
  { bin with rate := factor * bin.rate }

/-- The rupture at a multiple of its rate; all else stays the same. -/
def Rupture.scaled {α : Type} [Scalar α] (factor : α) (r : Rupture α) : Rupture α :=
  { r with rate := factor * r.rate }

/-- The magnitudes of any two bins are at least the tolerance apart. -/
def Bin.Apart (bins : List (Bin ℝ)) : Prop :=
  bins.Pairwise fun a b => magnitudeTolerance ≤ |a.magnitude - b.magnitude|

/-- Bins that are in ascending order are merged as they stand. -/
theorem mergedBins_of_ascending (bins : List (Bin ℝ)) (h : Bin.Ascending bins) :
    mergedBins bins = mergeSorted bins := by
  rw [mergedBins_eq]
  exact mergeSorted_eq_of_perm _ _ (ascending_mergeSort bins) h (List.mergeSort_perm bins _)

/-- Copies of a list hold each entry as often as there are copies. -/
theorem flatten_replicate_perm {β : Type} (k : ℕ) (xs : List β) :
    (List.replicate k xs).flatten.Perm (xs.flatMap (List.replicate k)) := by
  induction k with
  | zero =>
      have hnil : xs.flatMap (List.replicate 0) = [] := List.flatMap_eq_nil_iff.mpr fun _ _ => rfl
      rw [List.replicate_zero, List.flatten_nil, hnil]
  | succ k ih =>
      have hcons : xs.flatMap (List.replicate (k + 1))
          = xs.flatMap fun x => [x] ++ List.replicate k x := rfl
      rw [List.replicate_succ, List.flatten_cons, hcons]
      refine (ih.append_left xs).trans ?_
      have hsplit := List.flatMap_append_perm xs (fun x => [x]) (List.replicate k)
      rwa [List.flatMap_singleton'] at hsplit

/-- Entries that are each repeated stay in ascending order. -/
theorem ascending_flatMap_replicate (k : ℕ) (bins : List (Bin ℝ)) (h : Bin.Ascending bins) :
    Bin.Ascending (bins.flatMap (List.replicate k)) := by
  rw [Bin.Ascending, List.pairwise_flatMap]
  refine ⟨fun bin _ => List.pairwise_replicate.mpr (Or.inr (le_refl _)), h.imp ?_⟩
  intro a b hab x hx y hy
  rw [List.eq_of_mem_replicate hx, List.eq_of_mem_replicate hy]
  exact hab

/-- Bins that are repeated and apart merge into one each, at a multiple of its rate. -/
theorem mergeSorted_replicate (k : ℕ) (bins : List (Bin ℝ)) (hascending : Bin.Ascending bins)
    (hapart : Bin.Apart bins) :
    mergeSorted (bins.flatMap (List.replicate (k + 1)))
      = bins.map (Bin.scaled ((k + 1 : ℕ) : ℝ)) := by
  induction bins with
  | nil => rfl
  | cons bin rest ih =>
      have hsorted := ascending_flatMap_replicate (k + 1) (bin :: rest) hascending
      have hcopies : (bin :: rest).flatMap (List.replicate (k + 1))
          = bin :: (List.replicate k bin ++ rest.flatMap (List.replicate (k + 1))) := rfl
      -- The copies of the first bin are merged, and no other bin is near it.
      have hnear : ∀ b ∈ List.replicate (k + 1) bin, b.near bin.magnitude = true := by
        intro b hb
        rw [List.eq_of_mem_replicate hb]
        exact bin.near_self
      have hfar : ∀ b ∈ rest.flatMap (List.replicate (k + 1)),
          ¬ b.near bin.magnitude = true := by
        intro b hb
        rcases List.mem_flatMap.mp hb with ⟨other, hother, hcopy⟩
        have hgap := List.rel_of_pairwise_cons hapart hother
        rw [List.eq_of_mem_replicate hcopy, Bin.near_iff, abs_sub_comm]
        exact not_lt.mpr hgap
      have hmerged : ((bin :: rest).flatMap (List.replicate (k + 1))).filter
          (Bin.near bin.magnitude) = List.replicate (k + 1) bin := by
        rw [List.flatMap_cons, List.filter_append, List.filter_eq_self.mpr hnear,
          List.filter_eq_nil_iff.mpr hfar, List.append_nil]
      have hleft : ((bin :: rest).flatMap (List.replicate (k + 1))).filter
          (fun b => !b.near bin.magnitude) = rest.flatMap (List.replicate (k + 1)) := by
        rw [List.flatMap_cons, List.filter_append, List.filter_eq_nil_iff.mpr,
          List.filter_eq_self.mpr, List.nil_append]
        · intro b hb
          rw [Bool.eq_false_of_not_eq_true (hfar b hb), Bool.not_false]
        · intro b hb
          rw [hnear b hb, Bool.not_true]
          exact Bool.false_ne_true
      rw [hcopies] at hsorted hmerged hleft
      rw [hcopies, mergeSorted_cons _ _ hsorted, hmerged, hleft,
        ih hascending.of_cons hapart.of_cons, List.map_replicate, List.sum_replicate,
        nsmul_eq_mul, List.map_cons]
      rfl

/-- Merging copies of bins that are in order and apart scales their rates. -/
theorem mergedBins_replicate (k : ℕ) (hk : 1 ≤ k) (bins : List (Bin ℝ))
    (hascending : Bin.Ascending bins) (hapart : Bin.Apart bins) :
    mergedBins (List.replicate k bins).flatten = bins.map (Bin.scaled (k : ℝ)) := by
  rcases Nat.exists_eq_add_of_le' hk with ⟨j, hj⟩
  rw [hj, mergedBins_eq_of_perm (flatten_replicate_perm (j + 1) bins),
    mergedBins_of_ascending _ (ascending_flatMap_replicate (j + 1) bins hascending),
    mergeSorted_replicate j bins hascending hapart]

theorem everyNth_map {β γ : Type} (n : ℕ) (f : β → γ) (xs : List β) :
    everyNth n (xs.map f) = (everyNth n xs).map f := by
  induction xs using everyNth.induct n with
  | case1 => rw [List.map_nil, everyNth, everyNth, List.map_nil]
  | case2 x rest ih => rw [List.map_cons, everyNth, everyNth, List.map_cons, ← List.map_drop, ih]

namespace RuptureSetting

variable (setting : RuptureSetting ℝ)

/-- Nothing but the rate of a rupture depends on the rate that it is given. -/
theorem rupture_scaled (magnitude rate factor : ℝ) (plane : NodalPlane ℝ) (hypocenter : Point ℝ)
    (asPoint shift : Bool) :
    setting.rupture magnitude (factor * rate) plane hypocenter asPoint shift
      = (setting.rupture magnitude rate plane hypocenter asPoint shift).scaled factor := by
  cases asPoint with
  | false => rfl
  | true => rfl

/-- Scaled bins have scaled ruptures. -/
theorem averagedRuptures_map (factor : ℝ) (bins : List (Bin ℝ)) (plane : NodalPlane ℝ)
    (hypocenter : Point ℝ) (asPoint : Bool) :
    setting.averagedRuptures (bins.map (Bin.scaled factor)) plane hypocenter asPoint
      = (setting.averagedRuptures bins plane hypocenter asPoint).map (Rupture.scaled factor) := by
  rw [averagedRuptures, averagedRuptures, everyNth_map, List.map_map, List.map_map]
  exact List.map_congr_left fun bin _ =>
    setting.rupture_scaled bin.magnitude bin.rate factor plane hypocenter asPoint false

end RuptureSetting

namespace AverageGeometry

variable (k : ℕ) (hk : 1 ≤ k) (s : PointSource ℝ)

include hk

theorem mean_replicate (property : PointSource ℝ → ℝ) :
    mean (List.replicate k s) property = property s := by
  have hne : List.replicate k s ≠ [] :=
    List.ne_nil_of_length_pos (hk.trans_eq List.length_replicate.symm)
  refine (isMean_mean _ hne).eq_const fun t ht => ?_
  rw [List.eq_of_mem_replicate ht]

/-- The mean geometry of copies is the averaged geometry of the source. -/
theorem meanOf_replicate :
    meanOf (List.replicate k s)
      = { longitude := s.averageHypocenter.longitude
          latitude := s.averageHypocenter.latitude
          depth := s.averageHypocenter.depth
          strike := s.averagePlane.strike
          dip := s.averagePlane.dip
          rake := s.averagePlane.rake
          upper := s.upper
          lower := s.lower
          aspectRatio := s.aspectRatio } := by
  simp only [meanOf, mean_replicate k hk]
  rfl

end AverageGeometry

namespace Cluster

/-- Copies of a source form a cluster, with the averages of the source. -/
theorem form_replicate (id : String) (k : ℕ) (hk : 1 ≤ k) (s : PointSource ℝ) :
    ∃ c, form id (List.replicate k s) = .ok c ∧ c.members = List.replicate k s ∧
      c.setting = s.setting ∧ c.geometry.plane = s.averagePlane ∧
      c.location = s.averageHypocenter := by
  rcases Nat.exists_eq_add_of_le' hk with ⟨j, hj⟩
  have hagree : ∀ t ∈ s :: List.replicate j s, s.Agrees t := by
    rw [← List.replicate_succ]
    intro t ht
    rw [List.eq_of_mem_replicate ht]
    exact s.agrees_refl
  rw [hj, List.replicate_succ, form_cons, (fault?_eq_none_iff _ _).mpr hagree]
  have hmean := AverageGeometry.meanOf_replicate (j + 1) (Nat.le_add_left 1 j) s
  rw [List.replicate_succ] at hmean
  refine ⟨ofMembers id s (List.replicate j s), rfl, rfl, ?_, ?_, ?_⟩
  · rw [setting, ofMembers, hmean]
    rfl
  · rw [ofMembers, hmean]
    rfl
  · rw [location, ofMembers, hmean]
    rfl

/-- Collapsing copies of one source scales its rates and changes nothing else.

    Copies of an accepted source whose magnitudes are a tolerance apart form a cluster. Its
    averaged enumeration is that of the source, of planes and of points, with the rate of
    each rupture multiplied by the number of copies; so are its bins. Its full enumeration is
    that of the source, as often as there are copies. -/
theorem form_copies (s : PointSource ℝ) (h : s.Accepted) (hapart : Bin.Apart s.bins)
    (id : String) (k : ℕ) (hk : 1 ≤ k) :
    ∃ c, form id (List.replicate k s) = .ok c ∧
      (∀ asPoint, c.averagedRuptures asPoint
        = (s.averagedRuptures asPoint).map (Rupture.scaled (k : ℝ))) ∧
      c.bins = s.bins.map (Bin.scaled (k : ℝ)) ∧
      ∀ options, c.ruptures options = (List.replicate k (s.ruptures options)).flatten := by
  rcases form_replicate id k hk s with ⟨c, hc, hmembers, hsetting, hplane, hlocation⟩
  have hascending : Bin.Ascending s.bins := (s.bins_ascending h).imp le_of_lt
  have hbins : c.bins = s.bins.map (Bin.scaled (k : ℝ)) := by
    rw [bins, hmembers, List.flatMap_replicate,
      mergedBins_replicate k hk s.bins hascending hapart]
  refine ⟨c, hc, fun asPoint => ?_, hbins, fun options => ?_⟩
  · rw [averagedRuptures, hbins, hsetting, hplane, hlocation,
      RuptureSetting.averagedRuptures_map]
    rfl
  · rw [ruptures, hmembers, List.flatMap_replicate]

end Cluster

namespace PointSource

theorem steady_accepted : steady.Accepted := by
  have hvalid : steady.toPointSourceSpec.Valid :=
    { weightless_valid "steady" 0.0 (by norm_num) with
      recurrence := by
        have horder : ¬ (6.0 : ℝ) ≤ 5.0 := by norm_num
        have hfirst : ¬ (1.0 : ℝ) < 0.0 := by norm_num
        have hsecond : ¬ (0.5 : ℝ) < 0.0 := by norm_num
        change (Recurrence.orderFault? [(5.0 : ℝ), 6.0]).or
          (Recurrence.ratesFault? [(1.0 : ℝ), 0.5]) = none
        simp only [Recurrence.orderFault?, Recurrence.ratesFault?, horder, if_false,
          List.any_cons, List.any_nil, hfirst, hsecond, decide_false]
        rfl
      rate := by
        refine ⟨⟨5.0, 1.0⟩, List.mem_cons_self, ?_⟩
        norm_num }
  refine { weightless_accepted "steady" 0.0 (by norm_num) with
    source := ⟨steady.toPointSourceSpec, steady, ?_, rfl⟩ }
  rw [ofSpec, (PointSourceSpec.fault?_eq_none_iff _).mpr hvalid]
  rfl

theorem apart_steady : Bin.Apart steady.bins := by
  refine List.Pairwise.filter _ ?_
  change [(⟨5.0, 1.0⟩ : Bin ℝ), ⟨6.0, 0.5⟩].Pairwise _
  refine List.pairwise_pair.mpr ?_
  unfold magnitudeTolerance
  norm_num

end PointSource

/-- Three copies of a source of two magnitudes form a cluster, with three times the rates. -/
theorem Cluster.form_copies_steady :
    PointSource.steady.Accepted ∧ Bin.Apart PointSource.steady.bins ∧
      ∃ c, form "thrice" (List.replicate 3 PointSource.steady) = .ok c ∧
        c.bins = PointSource.steady.bins.map (Bin.scaled ((3 : ℕ) : ℝ)) := by
  rcases form_copies PointSource.steady PointSource.steady_accepted PointSource.apart_steady
    "thrice" 3 (by norm_num) with ⟨c, hc, _, hbins, _⟩
  exact ⟨PointSource.steady_accepted, PointSource.apart_steady, c, hc, hbins⟩

end Seismicity
