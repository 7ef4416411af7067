import Seismicity.Proofs.Source.Averages
import Seismicity.Proofs.Source.Merging

/-!
# Clusters and the Order of Their Members

In exact arithmetic a cluster hardly depends on the order of its members.

The mean geometry is a sum over a sum, and both sums are taken over all members.
The merged bins are those of `mergedBins_eq_of_perm`. What a cluster takes from its
first member is shared by all of them: the checks compare region, scaling relation
and occurrence in time, and equal numbers are the same number here. The one tag
that is neither compared nor averaged is the model index, and it is the only one
that may differ.

## Main definitions

* `Cluster.SameUpToOrder`: Two clusters of the same members, in some order each.

## Theorems

* `Exact.weightedMean_eq_of_perm`, `Exact.spread_perm`: Means over entries.
* `AverageGeometry.meanOf_eq_of_perm`: The mean geometry.
* `PointSource.agrees_iff`: Sources agree if their tags are equal.
* `Cluster.Formed.sameUpToOrder`: Clusters formed of the same members.
-/

namespace Seismicity

namespace Exact

/-- The comparison of real numbers for equality decides it. -/
instance lawfulBEq : LawfulBEq ℝ where
  eq_of_beq h := (beq_iff_eq _ _).mp h
  rfl := beq_self _

variable {β : Type} {entries entries' : List (ℝ × β)}

theorem weightedMean_eq_of_perm (h : entries.Perm entries') :
    weightedMean entries = weightedMean entries' := by
  funext f
  rw [weightedMean, weightedMean, (h.map fun entry => entry.1 * f entry.2).sum_eq,
    (h.map Prod.fst).sum_eq]

/-- Whether some weight is positive does not depend on the order. -/
theorem spread_perm (h : entries.Perm entries') : (spread entries).Perm (spread entries') := by
  rw [spread, spread, (h.map Prod.fst).sum_eq]
  by_cases htotal : 0 < (entries'.map Prod.fst).sum
  · rw [if_pos htotal, if_pos htotal]
    exact h
  · rw [if_neg htotal, if_neg htotal]
    exact h.map _

end Exact

/-- Occurrences in time are compared by their numbers. -/
instance Poisson.lawfulBEq {β : Type} [BEq β] [LawfulBEq β] : LawfulBEq (Poisson β) where
  eq_of_beq {x y} h := by
    cases x
    cases y
    rw [Poisson.mk.injEq]
    exact eq_of_beq h
  rfl {x} := by
    rw [Poisson.beq_eq]
    exact BEq.rfl

/-- Sources agree with the first exactly if their tags are equal. -/
theorem PointSource.agrees_iff (first s : PointSource ℝ) :
    first.Agrees s ↔ s.region = first.region ∧ s.scaling = first.scaling ∧
      s.occurrence = first.occurrence := by
  constructor
  · intro h
    exact ⟨h.region, h.scaling, eq_of_beq h.occurrence⟩
  · rintro ⟨hregion, hscaling, hoccurrence⟩
    exact ⟨hregion, hscaling, beq_of_eq hoccurrence⟩

theorem PointSource.agrees_refl (s : PointSource ℝ) : s.Agrees s :=
  (agrees_iff s s).mpr ⟨rfl, rfl, rfl⟩

namespace AverageGeometry

theorem mean_eq_of_perm {xs ys : List (PointSource ℝ)} (h : xs.Perm ys) : mean xs = mean ys := by
  funext property
  have hrated : (rated xs).Perm (rated ys) := by
    rw [rated, rated]
    exact h.map _
  rw [mean_eq, mean_eq, Exact.weightedMean_eq_of_perm (Exact.spread_perm hrated)]

/-- The mean geometry does not depend on the order of the sources. -/
theorem meanOf_eq_of_perm {xs ys : List (PointSource ℝ)} (h : xs.Perm ys) :
    meanOf xs = meanOf ys := by
  rw [meanOf, meanOf, mean_eq_of_perm h]

end AverageGeometry

namespace Cluster

/-- Two clusters have the same members, in some order each, and apart from that they
    are alike: in geometry and merged bins, and in all tags but the id and the model
    index. -/
structure SameUpToOrder (c d : Cluster ℝ) : Prop where
  members : c.members.Perm d.members
  geometry : c.geometry = d.geometry
  bins : c.bins = d.bins
  group : c.group = d.group
  region : c.region = d.region
  scaling : c.scaling = d.scaling
  occurrence : c.occurrence = d.occurrence
  radius : c.radius = d.radius

theorem Formed.geometry_eq {c : Cluster ℝ} (h : c.Formed) :
    c.geometry = AverageGeometry.meanOf c.members := by
  rcases h with ⟨first, rest, hc, _⟩
  rw [hc]
  rfl

theorem Formed.radius_eq {c : Cluster ℝ} (h : c.Formed) : c.radius = none := by
  rcases h with ⟨first, rest, hc, _⟩
  rw [hc]
  rfl

theorem Formed.members_ne_nil {c : Cluster ℝ} (h : c.Formed) : c.members ≠ [] := by
  rcases h with ⟨first, rest, hc, _⟩
  rw [hc]
  exact List.cons_ne_nil first rest

/-- Clusters formed of the same members of one group are alike. -/
theorem Formed.sameUpToOrder {c d : Cluster ℝ} (hc : c.Formed) (hd : d.Formed) (g : Nat)
    (hgroup : ∀ s ∈ c.members, s.group = g) (hperm : c.members.Perm d.members) :
    c.SameUpToOrder d := by
  -- Any common member will do to compare the tags.
  rcases List.exists_mem_of_ne_nil _ hc.members_ne_nil with ⟨s, hs⟩
  have hcs := hc.agrees s hs
  have hds := hd.agrees s (hperm.mem_iff.mp hs)
  have hgroup' : ∀ s ∈ d.members, s.group = g := fun s hs => hgroup s (hperm.mem_iff.mpr hs)
  exact
    { members := hperm
      geometry := by
        rw [hc.geometry_eq, hd.geometry_eq, AverageGeometry.meanOf_eq_of_perm hperm]
      bins := mergedBins_eq_of_perm (hperm.flatMap_right _)
      group := (hc.group g hgroup).trans (hd.group g hgroup').symm
      region := hcs.1.symm.trans hds.1
      scaling := hcs.2.1.symm.trans hds.2.1
      occurrence := (eq_of_beq hcs.2.2).symm.trans (eq_of_beq hds.2.2)
      radius := hc.radius_eq.trans hd.radius_eq.symm }

end Cluster

end Seismicity
