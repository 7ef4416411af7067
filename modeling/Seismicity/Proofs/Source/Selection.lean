import Seismicity.Proofs.Source.Copies
import Seismicity.Proofs.Source.Enumeration
import Seismicity.Proofs.Binning.Positions

/-!
# Ruptures of One Magnitude

Asking for a magnitude is filtering by it.

The enumeration drops the bins of other magnitudes before it combines what is left with
planes and depths, a cluster does so in each of its members, and nothing that is dropped
is ever computed. A rupture has the magnitude of its bin, so dropping the ruptures of other
magnitudes afterwards leaves the same list: a filter may be moved into each list that is
joined (`filter_ruptures`). This needs no property of the comparison, so it holds as well
where the magnitude asked for is not a number and the comparison always fails.

Whether the ruptures of all magnitudes of a source are all its ruptures is another matter.
Magnitudes within the tolerance of each other find each other's ruptures. If they are the
tolerance apart, to be within the tolerance is to be equal (`Apart.sameMagnitude_iff`). Then
asking for one magnitude after the other is sorting the ruptures by their magnitudes.

## Main definitions

* `sameMagnitude`: A magnitude is within the tolerance of another.

## Theorems

* `filter_ruptures`: Asking for a magnitude, for both kinds of sources.
* `length_ruptures_of_magnitude`: How many ruptures there are of a magnitude.
* `Bin.Apart.sameMagnitude_iff`, `Bin.Apart.countP_eq_one`: Magnitudes that are apart.
* `ruptures_of_magnitude`: Asking for a magnitude is filtering by it.
-/

namespace Seismicity

variable {α : Type} [Scalar α]

/-- The magnitude `x` is within the tolerance of the magnitude `m`. -/
def sameMagnitude (m x : α) : Bool := decide (Scalar.abs (x - m) < magnitudeTolerance)

/-- A rupture has the magnitude that it was given. -/
theorem RuptureSetting.rupture_magnitude (setting : RuptureSetting α) (magnitude rate : α)
    (plane : NodalPlane α) (hypocenter : Point α) (asPoint shift : Bool) :
    (setting.rupture magnitude rate plane hypocenter asPoint shift).magnitude = magnitude := by
  cases asPoint with
  | true => rfl
  | false => rfl

namespace PointSource

variable (s : PointSource α) (m : α) (asPoint shift : Bool)

theorem filter_ruptures :
    (s.ruptures { magnitude := none, asPoint := asPoint, shift := shift }).filter
        (fun r => sameMagnitude m r.magnitude)
      = s.ruptures { magnitude := some m, asPoint := asPoint, shift := shift } := by
  rw [ruptures, ruptures, combinations, combinations, List.filter_flatMap]
  refine congrArg (s.planes.entries.flatMap ·) (funext fun plane => ?_)
  rw [List.filter_flatMap]
  refine congrArg (s.depths.entries.flatMap ·) (funext fun depth => ?_)
  -- The bins are filtered by what the ruptures are filtered by.
  have hkeep : ((fun r : Rupture α => sameMagnitude m r.magnitude) ∘ fun bin : Bin α =>
      s.setting.rupture bin.magnitude (bin.rate * plane.1 * depth.1) plane.2
        (s.location.atDepth depth.2) asPoint shift)
      = fun bin => sameMagnitude m bin.magnitude := by
    funext bin
    rw [Function.comp_apply, RuptureSetting.rupture_magnitude]
  rw [List.filter_map]
  exact congrArg (fun keep => (s.bins.filter keep).map _) hkeep

theorem length_ruptures_of_magnitude :
    (s.ruptures { magnitude := some m, asPoint := asPoint, shift := shift }).length
      = s.countOrientations * s.bins.countP fun bin => sameMagnitude m bin.magnitude := by
  rw [ruptures, combinations_length, countOrientations, List.countP_eq_length_filter, mul_assoc]
  rfl

/-- Every rupture has the magnitude of a bin. -/
theorem exists_bin_of_mem_ruptures (options : RuptureOptions α) (r : Rupture α)
    (h : r ∈ s.ruptures options) : ∃ bin ∈ s.bins, r.magnitude = bin.magnitude := by
  rcases (s.mem_ruptures_iff options r).mp h with ⟨plane, _, depth, _, bin, hbin, hr⟩
  refine ⟨bin, s.mem_bins_of_selected options bin hbin, ?_⟩
  rw [hr, RuptureSetting.rupture_magnitude]

end PointSource

/-- The ruptures of a magnitude are those of all ruptures that have it. -/
theorem PointLike.filter_ruptures (p : PointLike α) (m : α) (asPoint shift : Bool) :
    (p.ruptures { magnitude := none, asPoint := asPoint, shift := shift }).filter
        (fun r => sameMagnitude m r.magnitude)
      = p.ruptures { magnitude := some m, asPoint := asPoint, shift := shift } := by
  cases p with
  | single s => exact s.filter_ruptures m asPoint shift
  | clustered c =>
      refine List.filter_flatMap.trans ?_
      exact congrArg (c.members.flatMap ·) (funext fun s => s.filter_ruptures m asPoint shift)

namespace Bin.Apart

variable {bins : List (Bin ℝ)} (h : Apart bins)

include h

theorem magnitudes_nodup : (bins.map Bin.magnitude).Nodup := by
  rw [List.Nodup, List.pairwise_map]
  refine h.imp fun {a b} hab heq => ?_
  rw [heq, sub_self, abs_zero] at hab
  exact absurd magnitudeTolerance_pos (not_lt.mpr hab)

/-- Where magnitudes are the tolerance apart, those within the tolerance are equal. -/
theorem sameMagnitude_iff {a b : Bin ℝ} (ha : a ∈ bins) (hb : b ∈ bins) :
    sameMagnitude a.magnitude b.magnitude = true ↔ b.magnitude = a.magnitude := by
  have hpair : bins.Pairwise fun x y =>
      |y.magnitude - x.magnitude| < magnitudeTolerance → y.magnitude = x.magnitude :=
    h.imp fun {x y} hxy hnear =>
      absurd hnear (not_lt.mpr (abs_sub_comm x.magnitude y.magnitude ▸ hxy))
  have hsymm : Std.Symm fun x y : Bin ℝ =>
      |y.magnitude - x.magnitude| < magnitudeTolerance → y.magnitude = x.magnitude :=
    ⟨fun x y hxy hnear => (hxy (abs_sub_comm x.magnitude y.magnitude ▸ hnear)).symm⟩
  constructor
  · intro hsame
    exact hpair.forall_of_forall (fun _ _ _ => rfl) ha hb (of_decide_eq_true hsame)
  · intro heq
    rw [heq]
    exact a.near_self

theorem countP_eq_one {bin : Bin ℝ} (hbin : bin ∈ bins) :
    bins.countP (fun b => sameMagnitude bin.magnitude b.magnitude) = 1 := by
  have hcount : bins.countP (fun b => sameMagnitude bin.magnitude b.magnitude)
      = (bins.map Bin.magnitude).count bin.magnitude := by
    rw [List.count_eq_countP, List.countP_map]
    refine List.countP_congr fun b hb => ?_
    exact (h.sameMagnitude_iff hbin hb).trans (Exact.beq_iff_eq _ _).symm
  rw [hcount]
  exact List.count_eq_one_of_mem h.magnitudes_nodup (List.mem_map_of_mem hbin)

end Bin.Apart

/-- Asking for a magnitude is filtering by it.

    The ruptures of a magnitude are, in order, those of all ruptures whose magnitude is
    within the tolerance of it, whatever the magnitude is. A point source has as many of
    them as it has planes and depths, for each bin with a positive rate within the
    tolerance. If its magnitudes are the tolerance apart, in exact arithmetic, it has as
    many ruptures of each as it has planes and depths, and all these are all its ruptures
    in another order. -/
theorem ruptures_of_magnitude (asPoint shift : Bool) :
    (∀ (α : Type) [Scalar α] (m : α),
      (∀ p : PointLike α,
        p.ruptures { magnitude := some m, asPoint := asPoint, shift := shift }
          = (p.ruptures { magnitude := none, asPoint := asPoint, shift := shift }).filter
              fun r => Scalar.abs (r.magnitude - m) < magnitudeTolerance) ∧
      ∀ s : PointSource α,
        (s.ruptures { magnitude := some m, asPoint := asPoint, shift := shift }).length
          = s.countOrientations *
            s.bins.countP fun bin => Scalar.abs (bin.magnitude - m) < magnitudeTolerance) ∧
    ∀ s : PointSource ℝ, Bin.Apart s.bins →
      (∀ bin ∈ s.bins,
        (s.ruptures { magnitude := some bin.magnitude, asPoint := asPoint, shift := shift }).length
          = s.countOrientations) ∧
      (s.bins.flatMap fun bin =>
        s.ruptures { magnitude := some bin.magnitude, asPoint := asPoint, shift := shift }).Perm
          (s.ruptures { magnitude := none, asPoint := asPoint, shift := shift }) := by
  refine ⟨fun α _ m => ⟨fun p => (p.filter_ruptures m asPoint shift).symm,
    fun s => s.length_ruptures_of_magnitude m asPoint shift⟩, fun s hapart => ⟨?_, ?_⟩⟩
  · intro bin hbin
    rw [PointSource.length_ruptures_of_magnitude, hapart.countP_eq_one hbin, mul_one]
  · -- A rupture has the magnitude of a bin, so it is found by equality, too.
    have hfound : ∀ bin ∈ s.bins,
        s.ruptures { magnitude := some bin.magnitude, asPoint := asPoint, shift := shift }
          = (s.ruptures { magnitude := none, asPoint := asPoint, shift := shift }).filter
              fun r => r.magnitude == bin.magnitude := by
      intro bin hbin
      rw [← PointSource.filter_ruptures]
      refine List.filter_congr fun r hr => ?_
      rcases s.exists_bin_of_mem_ruptures _ r hr with ⟨other, hother, hmagnitude⟩
      rw [hmagnitude, Bool.eq_iff_iff, hapart.sameMagnitude_iff hbin hother]
      exact (Exact.beq_iff_eq _ _).symm
    have hcover : ∀ r ∈ s.ruptures { magnitude := none, asPoint := asPoint, shift := shift },
        r.magnitude ∈ s.bins.map Bin.magnitude := by
      intro r hr
      rcases s.exists_bin_of_mem_ruptures _ r hr with ⟨bin, hbin, hmagnitude⟩
      rw [hmagnitude]
      exact List.mem_map_of_mem hbin
    have hsorted := Binning.flatMap_filter_perm _ Rupture.magnitude _ hapart.magnitudes_nodup hcover
    rw [List.flatMap_map] at hsorted
    rw [List.flatMap_congr hfound]
    exact hsorted

/-- The steady source has four ruptures of magnitude 5, and all its ruptures are of one of
    its magnitudes. -/
theorem ruptures_of_magnitude_steady :
    Bin.Apart PointSource.steady.bins ∧ ⟨5.0, 1.0⟩ ∈ PointSource.steady.bins ∧
      (PointSource.steady.ruptures
        { magnitude := some 5.0, asPoint := false, shift := true }).length = 4 ∧
      (PointSource.steady.bins.flatMap fun bin => PointSource.steady.ruptures
        { magnitude := some bin.magnitude, asPoint := false, shift := true }).Perm
        (PointSource.steady.ruptures { magnitude := none, asPoint := false, shift := true }) := by
  have hbin : ⟨5.0, 1.0⟩ ∈ PointSource.steady.bins := by
    refine List.mem_filter.mpr ⟨List.mem_cons_self, decide_eq_true ?_⟩
    norm_num
  have hcount : PointSource.steady.countOrientations = 4 := rfl
  have h := (ruptures_of_magnitude false true).2 PointSource.steady PointSource.apart_steady
  exact ⟨PointSource.apart_steady, hbin, (h.1 _ hbin).trans hcount, h.2⟩

end Seismicity
