import Seismicity.Proofs.Source.Copies

/-!
# Pooled Rates

In exact arithmetic the merged bins of a cluster are a distribution of its members'
magnitudes: classes that do not overlap, miss no magnitude, and have the rates of what
falls into them.

A merge goes on as long as magnitudes are near the one at which it started, and not the one
before. So a chain of magnitudes, each near the next, is not drawn into one bin, and a class
is as wide as the tolerance: from the magnitude of its bin up to that magnitude plus the
tolerance (`Bin.within`). To be near is a condition on both sides. For sorted bins the two
are the same, since a merge starts at the least magnitude that is left; over all bins of the
cluster only the class says which rates are added up, because a bin just below a class is
near it and belongs to the class before.

`Bin.Pools` says what a distribution of bins is without any order of merging. One merge
keeps it (`Pools.cons`), and by induction it holds of sorted bins (`pools_mergeSorted`). It
holds of bins in any order then: a permutation changes none of its parts.

## Main definitions

* `Bin.within`: A magnitude falls into the class of another.
* `Bin.Pools`: Merged bins are a distribution of bins.
* `Cluster.pooled`: A cluster with magnitudes to merge.

## Theorems

* `Bin.near_eq_within`: In sorted bins, near magnitudes are those of a class.
* `Bin.Pools.cons`: One merge keeps the distribution.
* `Bin.Pools.rate_pos`, `Bin.Pools.countP_eq_one`: What follows for each bin.
* `pools_mergeSorted`, `pools_mergedBins`: Merged bins are a distribution.
* `Cluster.bins_pooled`: The merged bins of a cluster.
-/

namespace Seismicity

/-- An entry with a property that no two entries share is the only one. -/
theorem countP_eq_one_of_exclusive {β : Type} (p : β → Bool) (xs : List β)
    (hsome : ∃ x ∈ xs, p x = true)
    (hexclusive : xs.Pairwise fun x y => ¬ (p x = true ∧ p y = true)) : xs.countP p = 1 := by
  induction xs with
  | nil =>
      rcases hsome with ⟨x, hx, _⟩
      exact absurd hx List.not_mem_nil
  | cons y rest ih =>
      have hothers := List.pairwise_cons.mp hexclusive
      by_cases hfirst : p y = true
      · have hnone : rest.countP p = 0 :=
          List.countP_eq_zero.mpr fun z hz hlater => hothers.1 z hz ⟨hfirst, hlater⟩
        rw [List.countP_cons_of_pos hfirst, hnone]
      · rw [List.countP_cons_of_neg hfirst]
        refine ih ?_ hothers.2
        rcases hsome with ⟨x, hx, hp⟩
        rcases List.mem_cons.mp hx with heq | hrest
        · exact absurd (heq ▸ hp) hfirst
        · exact ⟨x, hrest, hp⟩

theorem PointSource.rate_pos_of_mem_bins (s : PointSource ℝ) (bin : Bin ℝ) (h : bin ∈ s.bins) :
    0 < bin.rate := by
  have hpositive := of_decide_eq_true (List.mem_filter.mp h).2
  rw [Exact.zero_eq] at hpositive
  exact hpositive

namespace Bin

/-- The magnitude falls into the class of `m`, which begins there and is as wide as the
    tolerance. -/
noncomputable def within (m : ℝ) (bin : Bin ℝ) : Bool :=
  decide (m ≤ bin.magnitude ∧ bin.magnitude < m + magnitudeTolerance)

theorem within_iff (m : ℝ) (bin : Bin ℝ) : bin.within m = true ↔
    m ≤ bin.magnitude ∧ bin.magnitude < m + magnitudeTolerance :=
  decide_eq_true_iff

theorem within_self (bin : Bin ℝ) : bin.within bin.magnitude = true :=
  (within_iff _ _).mpr ⟨le_refl _, lt_add_of_pos_right _ magnitudeTolerance_pos⟩

/-- No less than a magnitude, to be near it is to be in its class. -/
theorem near_eq_within (m : ℝ) (bin : Bin ℝ) (h : m ≤ bin.magnitude) :
    bin.near m = bin.within m := by
  rw [Bool.eq_iff_iff, near_iff, within_iff, abs_of_nonneg (sub_nonneg.mpr h), sub_lt_iff_lt_add']
  exact (and_iff_right h).symm

/-- The merged bins are a distribution of bins. -/
structure Pools (bins merged : List (Bin ℝ)) : Prop where
  /-- No class begins before the one before it ends. -/
  apart : merged.Pairwise fun a b => magnitudeTolerance ≤ b.magnitude - a.magnitude
  /-- A class begins at a magnitude. -/
  origin : ∀ m ∈ merged, ∃ bin ∈ bins, bin.magnitude = m.magnitude
  /-- The rate is that of the class. -/
  rate : ∀ m ∈ merged, m.rate = ((bins.filter (within m.magnitude)).map Bin.rate).sum
  /-- Each magnitude falls into a class. -/
  covers : ∀ bin ∈ bins, ∃ m ∈ merged, bin.within m.magnitude = true

namespace Pools

theorem nil : Pools [] [] where
  apart := List.Pairwise.nil
  origin := List.forall_mem_nil _
  rate := List.forall_mem_nil _
  covers := List.forall_mem_nil _

/-- A merge into the least magnitude: the bins near it have a class of their own, and what
    the others are merged into does not meet it. -/
theorem cons (bin : Bin ℝ) (rest merged : List (Bin ℝ)) (hsorted : Ascending (bin :: rest))
    (h : Pools ((bin :: rest).filter fun b => !b.near bin.magnitude) merged) :
    Pools (bin :: rest)
      (⟨bin.magnitude, (((bin :: rest).filter (near bin.magnitude)).map Bin.rate).sum⟩
        :: merged) := by
  have hleast : ∀ b ∈ bin :: rest, bin.magnitude ≤ b.magnitude := by
    rw [List.forall_mem_cons]
    exact ⟨le_refl _, fun b hb => List.rel_of_pairwise_cons hsorted hb⟩
  have hnear : ∀ b ∈ bin :: rest, b.near bin.magnitude = b.within bin.magnitude :=
    fun b hb => near_eq_within _ _ (hleast b hb)
  -- What is not near lies above the class, and so do the classes it is merged into.
  have habove : ∀ m ∈ merged, magnitudeTolerance ≤ m.magnitude - bin.magnitude := by
    intro m hm
    rcases h.origin m hm with ⟨b, hb, heq⟩
    rcases List.mem_filter.mp hb with ⟨hmem, hfar⟩
    rw [Bool.not_eq_true', ← Bool.not_eq_true, near_iff,
      abs_of_nonneg (sub_nonneg.mpr (hleast b hmem)), not_lt] at hfar
    rw [← heq]
    exact hfar
  exact
    { apart := List.pairwise_cons.mpr ⟨habove, h.apart⟩
      origin := by
        rw [List.forall_mem_cons]
        refine ⟨⟨bin, List.mem_cons_self, rfl⟩, fun m hm => ?_⟩
        rcases h.origin m hm with ⟨b, hb, heq⟩
        exact ⟨b, (List.mem_filter.mp hb).1, heq⟩
      rate := by
        rw [List.forall_mem_cons]
        refine ⟨?_, fun m hm => ?_⟩
        · rw [List.filter_congr hnear]
        · -- A bin in a later class is not near, so it is among those that are left.
          have hclass : ∀ b ∈ bin :: rest,
              (b.within m.magnitude && !b.near bin.magnitude) = b.within m.magnitude := by
            intro b hb
            rw [Bool.and_eq_left_iff_imp, Bool.not_eq_true', hnear b hb, ← Bool.not_eq_true,
              within_iff, within_iff]
            intro hwithin hfirst
            have hgap := habove m hm
            linarith [hwithin.1, hfirst.2]
          rw [h.rate m hm, List.filter_filter, List.filter_congr hclass]
      covers := by
        intro b hb
        by_cases hfirst : b.near bin.magnitude = true
        · exact ⟨_, List.mem_cons_self, hnear b hb ▸ hfirst⟩
        · have hleft : b ∈ (bin :: rest).filter fun b => !b.near bin.magnitude := by
            rw [List.mem_filter, Bool.not_eq_true', ← Bool.not_eq_true]
            exact ⟨hb, hfirst⟩
          rcases h.covers b hleft with ⟨m, hm, hwithin⟩
          exact ⟨m, List.mem_cons_of_mem _ hm, hwithin⟩ }

variable {bins merged : List (Bin ℝ)} (h : Pools bins merged)

include h

/-- The order of the bins does not matter. -/
theorem perm {bins' : List (Bin ℝ)} (hperm : bins.Perm bins') : Pools bins' merged where
  apart := h.apart
  origin m hm := by
    rcases h.origin m hm with ⟨bin, hbin, heq⟩
    exact ⟨bin, hperm.mem_iff.mp hbin, heq⟩
  rate m hm := (h.rate m hm).trans ((hperm.filter _).map Bin.rate).sum_eq
  covers bin hbin := h.covers bin (hperm.mem_iff.mpr hbin)

/-- A class holds the bin at which it begins, so it has a rate if the bins have. -/
theorem rate_pos (hpos : ∀ bin ∈ bins, 0 < bin.rate) : ∀ m ∈ merged, 0 < m.rate := by
  intro m hm
  rcases h.origin m hm with ⟨bin, hbin, heq⟩
  have hclass : bin ∈ bins.filter (within m.magnitude) :=
    List.mem_filter.mpr ⟨hbin, heq ▸ bin.within_self⟩
  rw [h.rate m hm]
  refine List.sum_pos _ ?_ (List.ne_nil_of_mem (List.mem_map_of_mem hclass))
  rw [List.forall_mem_map]
  exact fun b hb => hpos b (List.mem_filter.mp hb).1

/-- Each magnitude falls into one class only. -/
theorem countP_eq_one : ∀ bin ∈ bins, merged.countP (fun m => bin.within m.magnitude) = 1 := by
  intro bin hbin
  refine countP_eq_one_of_exclusive _ merged (h.covers bin hbin) (h.apart.imp ?_)
  intro a b hgap hboth
  rw [within_iff, within_iff] at hboth
  linarith [hboth.1.2, hboth.2.1]

end Pools

end Bin

/-- Sorted bins merge into a distribution of them. The induction is on their number: a merge
    leaves fewer. -/
theorem pools_mergeSorted (bins : List (Bin ℝ)) (h : Bin.Ascending bins) :
    Bin.Pools bins (mergeSorted bins) := by
  induction hlen : bins.length using Nat.strong_induction_on generalizing bins with
  | h n ih =>
      cases bins with
      | nil => exact Bin.Pools.nil
      | cons bin rest =>
          have hfewer := (length_filter_far_lt bin rest).trans_eq hlen
          rw [mergeSorted_cons bin rest h]
          exact Bin.Pools.cons bin rest _ h (ih _ hfewer _ (h.filter _) rfl)

theorem pools_mergedBins (bins : List (Bin ℝ)) : Bin.Pools bins (mergedBins bins) := by
  rw [mergedBins_eq]
  exact (pools_mergeSorted _ (ascending_mergeSort bins)).perm (List.mergeSort_perm bins _)

/-- The merged bins of a cluster are a distribution of its members' magnitudes.

    Their magnitudes ascend, by the tolerance at least, and each is that of a bin with a
    positive rate of some member. Their rates are positive, and each is the sum of all rates
    of members whose magnitude falls into the class that begins at the magnitude and is as
    wide as the tolerance. Every magnitude of a member falls into one of the classes and no
    more. The rates sum to the total rate of the cluster. The order of the members does not
    matter. -/
theorem Cluster.bins_pooled (c : Cluster ℝ) :
    (c.bins.Pairwise fun a b => magnitudeTolerance ≤ b.magnitude - a.magnitude) ∧
    (∀ merged ∈ c.bins,
      (∃ s ∈ c.members, ∃ bin ∈ s.bins, bin.magnitude = merged.magnitude) ∧
      0 < merged.rate ∧
      merged.rate = (((c.members.flatMap PointSource.bins).filter
        (Bin.within merged.magnitude)).map Bin.rate).sum) ∧
    (∀ s ∈ c.members, ∀ bin ∈ s.bins,
      c.bins.countP (fun merged => bin.within merged.magnitude) = 1) ∧
    (c.bins.map Bin.rate).sum = c.totalRate ∧
    ∀ d : Cluster ℝ, d.members.Perm c.members → d.bins = c.bins := by
  have hpools : Bin.Pools (c.members.flatMap PointSource.bins) c.bins := pools_mergedBins _
  have hpos : ∀ bin ∈ c.members.flatMap PointSource.bins, 0 < bin.rate := by
    intro bin hbin
    rcases List.mem_flatMap.mp hbin with ⟨s, _, hs⟩
    exact s.rate_pos_of_mem_bins bin hs
  refine ⟨hpools.apart, fun merged hmerged => ⟨?_, hpools.rate_pos hpos merged hmerged,
    hpools.rate merged hmerged⟩, fun s hs bin hbin => ?_, c.sum_bins.trans c.totalRate_eq.symm,
    fun d hperm => mergedBins_eq_of_perm (hperm.flatMap_right _)⟩
  · rcases hpools.origin merged hmerged with ⟨bin, hbin, heq⟩
    rcases List.mem_flatMap.mp hbin with ⟨s, hs, hmem⟩
    exact ⟨s, hs, bin, hmem, heq⟩
  · exact hpools.countP_eq_one bin (List.mem_flatMap.mpr ⟨s, hs, hbin⟩)

/-- A source whose only magnitude is near one of the steady source. -/
noncomputable def PointSource.nearby : PointSource ℝ :=
  { weightless "nearby" 0.0 with recurrence := .arbitrary [5.0000000005] [2.0] }

theorem PointSource.bins_nearby : nearby.bins = [⟨5.0000000005, 2.0⟩] := by
  have hrates : ∀ bin ∈ [(⟨5.0000000005, 2.0⟩ : Bin ℝ)], 0 < bin.rate := by
    rw [List.forall_mem_singleton]
    norm_num
  exact nearby.bins_eq hrates

/-- Two members with three magnitudes, two of them near each other. -/
noncomputable def Cluster.pooled : Cluster ℝ :=
  ofMembers "pooled" .steady [.nearby]

/-- The near magnitudes are pooled, whichever member comes first, and the one bin has the
    rates of both. -/
theorem Cluster.bins_pooled_nearby :
    ⟨5.0, 3.0⟩ ∈ pooled.bins ∧
      (3.0 : ℝ) = (((pooled.members.flatMap PointSource.bins).filter (Bin.within 5.0)).map
        Bin.rate).sum ∧
      (⟨5.0, 1.0⟩ ∈ PointSource.steady.bins ∧
        pooled.bins.countP (fun merged => Bin.within merged.magnitude ⟨5.0, 1.0⟩) = 1) ∧
      (ofMembers "pooled" .nearby [.steady]).bins = pooled.bins := by
  have hperm : (pooled.members.flatMap PointSource.bins).Perm
      [⟨5.0, 1.0⟩, ⟨5.0000000005, 2.0⟩, ⟨6.0, 0.5⟩] := by
    change (PointSource.steady.bins ++ (PointSource.nearby.bins ++ [])).Perm _
    rw [PointSource.bins_steady, PointSource.bins_nearby]
    exact (List.Perm.swap _ _ []).cons _
  have hascending : Bin.Ascending [⟨5.0, 1.0⟩, ⟨5.0000000005, 2.0⟩, ⟨6.0, 0.5⟩] := by
    simp only [Bin.Ascending, List.pairwise_cons, List.forall_mem_cons, List.not_mem_nil,
      false_imp_iff, implies_true, and_true, List.Pairwise.nil]
    norm_num
  have hbins : pooled.bins = mergeSorted [⟨5.0, 1.0⟩, ⟨5.0000000005, 2.0⟩, ⟨6.0, 0.5⟩] := by
    rw [← mergedBins_of_ascending _ hascending, ← mergedBins_eq_of_perm hperm, bins]
  have hfirst : ⟨5.0, 3.0⟩ ∈ pooled.bins := by
    have hnear : Bin.near 5.0 ⟨5.0000000005, 2.0⟩ = true := by
      rw [Bin.near_iff, magnitudeTolerance]
      norm_num [abs_lt]
    have hfar : ¬ Bin.near 5.0 ⟨6.0, 0.5⟩ = true := by
      rw [Bin.near_iff, magnitudeTolerance]
      norm_num [abs_lt]
    have hrate : (1.0 : ℝ) + 2.0 = 3.0 := by norm_num
    rw [hbins, mergeSorted, mergeBins_cons, if_pos hnear, mergeBins_cons, if_neg hfar, hrate]
    exact List.mem_cons_self
  have hsteady : ⟨5.0, 1.0⟩ ∈ PointSource.steady.bins := by
    rw [PointSource.bins_steady]
    exact List.mem_cons_self
  have h := pooled.bins_pooled
  exact ⟨hfirst, (h.2.1 _ hfirst).2.2,
    ⟨hsteady, h.2.2.1 _ List.mem_cons_self _ hsteady⟩,
    h.2.2.2.2 (ofMembers "pooled" .nearby [.steady]) (List.Perm.swap _ _ [])⟩

end Seismicity
