import Mathlib.Algebra.BigOperators.Ring.List
import Mathlib.Algebra.Order.BigOperators.Group.List
import Seismicity.Pmf
import Seismicity.Proofs.Exact.Real

/-!
# Weighted Means in Exact Arithmetic

What a mean preserves. Means are taken in two places, over a probability mass
function and over the members of a cluster, and in both there is a plain mean to
fall back on when no weight is positive. `IsMean` is what the two have in common:
a mean of equal values is that value, and it grows with the values, strictly if
all of them do. That is enough for bounds on one mean, strict or not, and for
the order between two means taken over the same values. How the weights come to
be does not matter beyond this point.

The strict clause is where the weights count. A sum of strictly greater values
with weights that may be zero is strictly greater only because some weight is
positive.

## Main definitions

* `Exact.IsMean`: A mean over a list of values.
* `Exact.weightedMean`: A weighted sum over the sum of the weights.
* `Exact.spread`: The entries over which a mean is taken.

## Theorems

* `IsMean.const_le`, `IsMean.le_const`, `IsMean.const_lt`, `IsMean.lt_const`: Bounds
  on a mean.
* `IsMean.eq_const`: A mean of equal values.
* `IsMean.exists_le`, `IsMean.exists_ge`: Some value is no greater, some no less.
* `isMean_weightedMean`, `isMean_spread`: A weighted mean is a mean.
* `Pmf.isMean_average`: So is the one over a probability mass function.
-/

namespace Seismicity

namespace Exact

/-- A mean over a list of values, which is a number for each property of them. -/
structure IsMean {β : Type} (values : List β) (mean : (β → ℝ) → ℝ) : Prop where
  const : ∀ c, mean (fun _ => c) = c
  mono : ∀ f g : β → ℝ, (∀ x ∈ values, f x ≤ g x) → mean f ≤ mean g
  strictMono : ∀ f g : β → ℝ, (∀ x ∈ values, f x < g x) → mean f < mean g

namespace IsMean

variable {β : Type} {values : List β} {mean : (β → ℝ) → ℝ} (h : IsMean values mean)
  {f : β → ℝ} {c : ℝ}

include h

theorem const_le (hf : ∀ x ∈ values, c ≤ f x) : c ≤ mean f :=
  (h.const c).symm.le.trans (h.mono _ f hf)

theorem le_const (hf : ∀ x ∈ values, f x ≤ c) : mean f ≤ c :=
  (h.mono f _ hf).trans (h.const c).le

theorem const_lt (hf : ∀ x ∈ values, c < f x) : c < mean f :=
  (h.const c).symm.le.trans_lt (h.strictMono _ f hf)

theorem lt_const (hf : ∀ x ∈ values, f x < c) : mean f < c :=
  (h.strictMono f _ hf).trans_le (h.const c).le

/-- A mean of equal values is that value. -/
theorem eq_const (hf : ∀ x ∈ values, f x = c) : mean f = c :=
  le_antisymm (h.le_const fun x hx => (hf x hx).le) (h.const_le fun x hx => (hf x hx).ge)

/-- Not all values are greater than their mean. -/
theorem exists_le : ∃ x ∈ values, f x ≤ mean f := by
  by_contra hnone
  push Not at hnone
  exact absurd (h.const_lt hnone) (lt_irrefl _)

/-- Not all values are less than their mean. -/
theorem exists_ge : ∃ x ∈ values, mean f ≤ f x := by
  by_contra hnone
  push Not at hnone
  exact absurd (h.lt_const hnone) (lt_irrefl _)

end IsMean

variable {β : Type} (entries : List (ℝ × β))

/-- The weighted sum of a property over the sum of the weights. -/
noncomputable def weightedMean (f : β → ℝ) : ℝ :=
  (entries.map fun entry => entry.1 * f entry.2).sum / (entries.map Prod.fst).sum

/-- With weights that are not negative and not all zero, it is a mean. -/
theorem isMean_weightedMean (hnonneg : ∀ entry ∈ entries, 0 ≤ entry.1)
    (htotal : 0 < (entries.map Prod.fst).sum) :
    IsMean (entries.map Prod.snd) (weightedMean entries) where
  const c := by
    rw [weightedMean, List.sum_map_mul_right]
    exact mul_div_cancel_left₀ c htotal.ne'
  mono f g hle := by
    refine div_le_div_of_nonneg_right (List.sum_le_sum fun entry hentry => ?_) htotal.le
    exact mul_le_mul_of_nonneg_left (hle _ (List.mem_map_of_mem hentry)) (hnonneg entry hentry)
  strictMono f g hlt := by
    -- Some weight is positive, or else their sum would not be.
    have hpositive : ∃ entry ∈ entries, 0 < entry.1 := by
      refine List.exists_lt_of_sum_lt (fun _ => 0) Prod.fst ?_
      rw [List.sum_map_zero]
      exact htotal
    have hweighted : ∀ entry ∈ entries, entry.1 * f entry.2 ≤ entry.1 * g entry.2 := by
      intro entry hentry
      exact mul_le_mul_of_nonneg_left (hlt _ (List.mem_map_of_mem hentry)).le
        (hnonneg entry hentry)
    rcases hpositive with ⟨entry, hentry, hpos⟩
    refine div_lt_div_of_pos_right (List.sum_lt_sum _ _ hweighted ⟨entry, hentry, ?_⟩) htotal
    exact mul_lt_mul_of_pos_left (hlt _ (List.mem_map_of_mem hentry)) hpos

/-- The entries over which a mean is taken: all with the same weight, if no weight
    is positive. -/
noncomputable def spread : List (ℝ × β) :=
  if 0 < (entries.map Prod.fst).sum then entries
  else entries.map fun entry => (1, entry.2)

theorem map_snd_spread : (spread entries).map Prod.snd = entries.map Prod.snd := by
  rw [spread]
  by_cases htotal : 0 < (entries.map Prod.fst).sum
  · rw [if_pos htotal]
  · rw [if_neg htotal, List.map_map]
    rfl

theorem sum_ones : ((entries.map fun entry => ((1 : ℝ), entry.2)).map Prod.fst).sum
    = entries.length := by
  have hones : (entries.map fun entry => ((1 : ℝ), entry.2)).map Prod.fst
      = List.replicate entries.length 1 := by
    rw [List.map_map]
    exact List.map_const'
  rw [hones, List.sum_replicate, nsmul_eq_mul, mul_one]

theorem weightedMean_spread (f : β → ℝ) : weightedMean (spread entries) f =
    if 0 < (entries.map Prod.fst).sum then
      (entries.map fun entry => entry.1 * f entry.2).sum / (entries.map Prod.fst).sum
    else (entries.map fun entry => f entry.2).sum / entries.length := by
  rw [spread]
  by_cases htotal : 0 < (entries.map Prod.fst).sum
  · rw [if_pos htotal, if_pos htotal, weightedMean]
  · have hplain : (entries.map fun entry => ((1 : ℝ), entry.2)).map
        (fun entry => entry.1 * f entry.2) = entries.map fun entry => f entry.2 := by
      rw [List.map_map]
      exact List.map_congr_left fun entry _ => one_mul _
    rw [if_neg htotal, if_neg htotal, weightedMean, sum_ones, hplain]

/-- With weights that are not negative, the mean over some entries is a mean, also
    if all weights are zero. -/
theorem isMean_spread (hne : entries ≠ []) (hnonneg : ∀ entry ∈ entries, 0 ≤ entry.1) :
    IsMean (entries.map Prod.snd) (weightedMean (spread entries)) := by
  rw [← map_snd_spread]
  by_cases htotal : 0 < (entries.map Prod.fst).sum
  · rw [spread, if_pos htotal]
    exact isMean_weightedMean entries hnonneg htotal
  · rw [spread, if_neg htotal]
    refine isMean_weightedMean _ ?_ ?_
    · rw [List.forall_mem_map]
      exact fun entry _ => zero_le_one
    · rw [sum_ones]
      exact Nat.cast_pos.mpr (List.length_pos_iff.mpr hne)

end Exact

namespace Pmf

variable {β : Type} (p : Pmf ℝ β)

theorem average_eq (f : β → ℝ) : p.average f = Exact.weightedMean (Exact.spread p.entries) f := by
  have htotal : total p.entries = (p.entries.map Prod.fst).sum := Exact.sum_eq _
  rw [average, htotal, Exact.sum_eq, Exact.sum_eq, Exact.zero_eq,
    Exact.weightedMean_spread]
  rfl

/-- The mean over a probability mass function is a mean of its values. -/
theorem isMean_average (hne : p.entries ≠ []) (hnonneg : ∀ entry ∈ p.entries, 0 ≤ entry.1) :
    Exact.IsMean (p.entries.map Prod.snd) p.average := by
  have heq : p.average = Exact.weightedMean (Exact.spread p.entries) := funext p.average_eq
  rw [heq]
  exact Exact.isMean_spread p.entries hne hnonneg

end Pmf

end Seismicity
