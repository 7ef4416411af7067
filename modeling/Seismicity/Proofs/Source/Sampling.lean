import Mathlib.Algebra.Order.Floor.Div
import Seismicity.Proofs.Source.Modes
import Seismicity.Proofs.Source.Rates

/-!
# Samples of the Averaged Enumeration

The cheap enumerations are samples of the averaged one, taken at even steps.

Steps are taken twice, over the magnitudes of a source and over the members of a cluster,
and both times an entry is kept and the ones up to the next step are dropped. Where the
kept entries come from says it all (`everyNth_getElem?`): the `i`-th is the one at position
`n i`. How many there are follows without another induction, because a position is past the
end of the sample exactly if `n` times the position is past the end of the list, which is
what rounding a quotient up means (`length_everyNth`).

A point source and a cluster average in different ways, but then both lay out one rupture
for each of their bins, on one plane and from one hypocenter. `PointLike.averagePlane` and
`PointLike.averageHypocenter` are what the two have in common. The few ruptures of a cluster
are not a sample of its own averaged enumeration: they are those of every tenth member, each
on the plane of that member.

## Main definitions

* `PointLike.setting`, `PointLike.averagePlane`, `PointLike.averageHypocenter`: What the
  averaged enumeration is laid out with.
* `Rupture.LiesOn`: The rupture of a bin on a plane.

## Theorems

* `everyNth_getElem?`, `length_everyNth`: Which entries a sample has, and how many.
* `averagedRuptures_eq`: The averaged enumeration of both kinds of sources.
* `averagedRuptures_liesOn`, `averagedRuptures_true_getElem?`: Its planes and its points.
* `averagedRuptures_sampled`: The averaged enumeration and its samples.
-/

namespace Seismicity

section Lists

variable {β : Type} (n : Nat) (hn : 0 < n) (xs : List β)

include hn

/-- The `i`-th entry that is kept stands at position `n i`. -/
theorem everyNth_getElem? (i : Nat) : (everyNth n xs)[i]? = xs[n * i]? := by
  induction xs using everyNth.induct n generalizing i with
  | case1 => rw [everyNth, List.getElem?_nil, List.getElem?_nil]
  | case2 x rest ih =>
      rw [everyNth]
      cases i with
      | zero => rw [Nat.mul_zero, List.getElem?_cons_zero, List.getElem?_cons_zero]
      | succ i =>
          have hposition : n * (i + 1) = n - 1 + n * i + 1 := by
            rw [Nat.mul_succ]
            omega
          rw [List.getElem?_cons_succ, ih, List.getElem?_drop, hposition, List.getElem?_cons_succ]

theorem length_everyNth : (everyNth n xs).length = xs.length ⌈/⌉ n := by
  refine eq_of_forall_ge_iff fun i => ?_
  rw [ceilDiv_le_iff_le_mul hn, ← List.getElem?_eq_none_iff, everyNth_getElem? n hn xs,
    List.getElem?_eq_none_iff]

end Lists

variable {α : Type} [Scalar α]

/-- The rupture of a bin that lies on a plane and starts at a point. -/
structure Rupture.LiesOn (plane : NodalPlane α) (start : Point α) (bin : Bin α) (r : Rupture α) :
    Prop where
  magnitude : r.magnitude = bin.magnitude
  rate : r.rate = bin.rate
  rake : r.rake = plane.rake
  hypocenter : r.hypocenter = start
  surface : ∃ surface, r.surface = .planar surface ∧ surface.strike = plane.strike ∧
    surface.dip = plane.dip ∧ surface.hypocenter = start

namespace RuptureSetting

variable (setting : RuptureSetting α) (bins : List (Bin α)) (plane : NodalPlane α)
  (hypocenter : Point α)

theorem averagedRuptures_liesOn :
    List.Forall₂ (Rupture.LiesOn plane hypocenter) bins
      (setting.averagedRuptures bins plane hypocenter false) := by
  rw [averagedRuptures_false, List.forall₂_map_right_iff, List.forall₂_same]
  exact fun bin _ => ⟨rfl, rfl, rfl, rfl, _, rfl, rfl, rfl, rfl⟩

theorem length_averagedRuptures_true :
    (setting.averagedRuptures bins plane hypocenter true).length = bins.length ⌈/⌉ 5 := by
  rw [averagedRuptures, if_pos rfl, List.length_map]
  exact length_everyNth 5 (by omega) bins

/-- The points are every fifth of the planes, without their surfaces. -/
theorem averagedRuptures_true_getElem? (i : Nat) :
    (setting.averagedRuptures bins plane hypocenter true)[i]?
      = ((setting.averagedRuptures bins plane hypocenter false)[5 * i]?).map Rupture.erased := by
  have hbin : (everyNth pointRuptureStride bins)[i]? = bins[5 * i]? :=
    everyNth_getElem? 5 (by omega) bins i
  rw [averagedRuptures_false, averagedRuptures, if_pos rfl, List.getElem?_map, List.getElem?_map,
    hbin, Option.map_map]
  rfl

end RuptureSetting

namespace PointLike

/-- What the averaged ruptures share. -/
def setting : PointLike α → RuptureSetting α
  | .single s => s.setting
  | .clustered c => c.setting

/-- The plane on which all averaged ruptures lie. -/
def averagePlane : PointLike α → NodalPlane α
  | .single s => s.averagePlane
  | .clustered c => c.geometry.plane

/-- The hypocenter that all averaged ruptures have. -/
def averageHypocenter : PointLike α → Point α
  | .single s => s.averageHypocenter
  | .clustered c => c.location

theorem averagedRuptures_eq (p : PointLike α) (asPoint : Bool) :
    p.averagedRuptures asPoint
      = p.setting.averagedRuptures p.bins p.averagePlane p.averageHypocenter asPoint := by
  cases p with
  | single s => rfl
  | clustered c => rfl

end PointLike

/-- The cheap enumerations are samples of averaged ones.

    The averaged enumeration of planes has one rupture for each bin, in order, all of them
    on one plane and with one hypocenter. The averaged enumeration of points is every fifth
    of these, without the surfaces. The few ruptures of a point source are its averaged
    points, and those of a cluster are what every tenth member has of them, one member
    after the other. -/
theorem averagedRuptures_sampled :
    (∀ p : PointLike α,
      (p.averagedRuptures false).length = p.bins.length ∧
      List.Forall₂ (Rupture.LiesOn p.averagePlane p.averageHypocenter) p.bins
        (p.averagedRuptures false) ∧
      (p.averagedRuptures true).length = p.bins.length ⌈/⌉ 5 ∧
      ∀ i : Nat, (p.averagedRuptures true)[i]?
        = ((p.averagedRuptures false)[5 * i]?).map Rupture.erased) ∧
    (∀ s : PointSource α, s.fewRuptures = s.averagedRuptures true) ∧
    ∀ c : Cluster α, ∃ drawn : List (PointSource α),
      drawn.length = c.members.length ⌈/⌉ 10 ∧
      (∀ i : Nat, drawn[i]? = c.members[10 * i]?) ∧
      c.fewRuptures = drawn.flatMap PointSource.fewRuptures ∧
      c.fewRuptures.length = (drawn.map fun s => s.bins.length ⌈/⌉ 5).sum := by
  refine ⟨fun p => ?_, fun s => rfl, fun c => ?_⟩
  · rw [p.averagedRuptures_eq, p.averagedRuptures_eq]
    have hlies := p.setting.averagedRuptures_liesOn p.bins p.averagePlane p.averageHypocenter
    exact ⟨hlies.length_eq.symm, hlies, p.setting.length_averagedRuptures_true _ _ _,
      p.setting.averagedRuptures_true_getElem? _ _ _⟩
  · refine ⟨everyNth 10 c.members, length_everyNth 10 (by omega) c.members,
      everyNth_getElem? 10 (by omega) c.members, rfl, ?_⟩
    rw [Cluster.fewRuptures, List.length_flatMap]
    exact congrArg List.sum
      (List.map_congr_left fun s _ => s.setting.length_averagedRuptures_true _ _ _)

/-- The steady source has two averaged ruptures as planes, of which the first is its only point.
    A cluster of eleven of it draws on two members. -/
theorem averagedRuptures_sampled_steady :
    (PointSource.steady.averagedRuptures false).length = 2 ∧
    (PointSource.steady.averagedRuptures true).length = 1 ∧
    (∃ r : Rupture ℝ, (PointSource.steady.averagedRuptures false)[0]? = some r ∧
      r.LiesOn PointSource.steady.averagePlane PointSource.steady.averageHypocenter ⟨5.0, 1.0⟩ ∧
      (PointSource.steady.averagedRuptures true)[0]? = some r.erased) ∧
    (Cluster.ofMembers "eleven" PointSource.steady
      (List.replicate 10 PointSource.steady)).fewRuptures.length = 2 := by
  rcases averagedRuptures_sampled.1 (.single PointSource.steady) with
    ⟨hlength, hlies, hcount, hsample⟩
  rcases averagedRuptures_sampled.2.2 (Cluster.ofMembers "eleven" PointSource.steady
    (List.replicate 10 PointSource.steady)) with ⟨drawn, hdrawn, hposition, _, hfew⟩
  have hbins : (PointLike.single PointSource.steady).bins = [⟨5.0, 1.0⟩, ⟨6.0, 0.5⟩] :=
    PointSource.bins_steady
  rw [hbins] at hlength hlies hcount
  have hlt : 0 < (PointSource.steady.averagedRuptures false).length :=
    Nat.zero_lt_two.trans_eq hlength.symm
  have hfirst := List.getElem?_eq_getElem hlt
  refine ⟨hlength, hcount, ⟨_, hfirst, hlies.get Nat.zero_lt_two hlt, ?_⟩, ?_⟩
  · exact (hsample 0).trans (congrArg (Option.map Rupture.erased) hfirst)
  · -- Of eleven members the first and the last are drawn. They are the same source.
    have hmembers : ∀ s ∈ drawn, s = PointSource.steady := by
      intro s hs
      rcases List.mem_iff_getElem?.mp hs with ⟨i, hi⟩
      rw [hposition] at hi
      have hmem : s ∈ List.replicate 11 PointSource.steady := List.mem_of_getElem? hi
      exact List.eq_of_mem_replicate hmem
    have htwice : drawn = List.replicate 2 PointSource.steady :=
      List.eq_replicate_iff.mpr ⟨hdrawn, hmembers⟩
    rw [hfew, htwice, List.map_replicate, PointSource.bins_steady]
    rfl

end Seismicity
