import Mathlib.Algebra.BigOperators.Ring.List
import Mathlib.Data.List.Sort
import Seismicity.Proofs.Exact.Real
import Seismicity.Source.Cluster

/-!
# Merged Bins

In exact arithmetic the merged bins of a cluster do not depend on the order of its
members.

Bins are sorted by magnitude and then merged from the least on. The order of bins
of one magnitude is left to the sort, so two ways to list the bins may well lead to
two sorted lists. What is merged from them is the same all the same: a merge stops
at the first magnitude that is too far away, in a sorted list all bins behind it
are too far away as well, and so a merge takes the bins near the least magnitude
and adds their rates. Which bins these are, and what their rates add up to, can be
said without an order. The far bins are again sorted, and there are fewer of them.

## Main definitions

* `Bin.near`: A bin is merged into the magnitude at which merging stands.
* `mergeSorted`: Bins of a sorted list, merged.

## Theorems

* `mergeBins_eq`, `mergeSorted_cons`: Merging, by near and far bins.
* `length_filter_far_lt`: Each merge leaves fewer bins.
* `mergeSorted_eq_of_perm`: Two sorted lists of the same bins merge alike.
* `mergedBins_eq_of_perm`: So do bins in any order.
-/

namespace Seismicity

/-- The bin is merged into the magnitude `m`. -/
noncomputable def Bin.near (m : ℝ) (bin : Bin ℝ) : Bool :=
  decide (Scalar.abs (bin.magnitude - m) < magnitudeTolerance)

/-- The bins of a list that is sorted by magnitude, merged. -/
noncomputable def mergeSorted : List (Bin ℝ) → List (Bin ℝ)
  | [] => []
  | bin :: rest => mergeBins bin.magnitude bin.rate rest

/-- Bins in ascending order of their magnitudes. -/
def Bin.Ascending (bins : List (Bin ℝ)) : Prop :=
  bins.Pairwise fun a b => a.magnitude ≤ b.magnitude

theorem magnitudeTolerance_pos : (0 : ℝ) < magnitudeTolerance := by
  unfold magnitudeTolerance
  norm_num

theorem Bin.near_iff (m : ℝ) (bin : Bin ℝ) :
    bin.near m = true ↔ |bin.magnitude - m| < magnitudeTolerance :=
  decide_eq_true_iff

theorem Bin.near_self (bin : Bin ℝ) : bin.near bin.magnitude = true := by
  rw [near_iff, sub_self, abs_zero]
  exact magnitudeTolerance_pos

/-- Above a magnitude that is too far away all others are. -/
theorem Bin.not_near_of_le (m : ℝ) (a b : Bin ℝ) (hm : m ≤ a.magnitude)
    (hab : a.magnitude ≤ b.magnitude) (h : ¬ a.near m = true) : ¬ b.near m = true := by
  rw [near_iff, abs_of_nonneg (sub_nonneg.mpr hm)] at h
  rw [near_iff, abs_of_nonneg (sub_nonneg.mpr (hm.trans hab))]
  linarith

theorem mergeBins_cons (m rate : ℝ) (bin : Bin ℝ) (rest : List (Bin ℝ)) :
    mergeBins m rate (bin :: rest) =
      if bin.near m = true then mergeBins m (rate + bin.rate) rest
      else ⟨m, rate⟩ :: mergeSorted (bin :: rest) := by
  by_cases hnear : Scalar.abs (bin.magnitude - m) < magnitudeTolerance
  · have hbin : bin.near m = true := decide_eq_true hnear
    rw [mergeBins, if_pos hnear, if_pos hbin]
  · have hbin : ¬ bin.near m = true := fun h => hnear (of_decide_eq_true h)
    rw [mergeBins, if_neg hnear, if_neg hbin]
    rfl

/-- Merging into the least magnitude takes the bins near it, and goes on with the
    others. -/
theorem mergeBins_eq (m : ℝ) (bins : List (Bin ℝ)) : ∀ rate : ℝ,
    Bin.Ascending bins → (∀ bin ∈ bins, m ≤ bin.magnitude) →
    mergeBins m rate bins =
      ⟨m, rate + ((bins.filter (Bin.near m)).map Bin.rate).sum⟩ ::
        mergeSorted (bins.filter fun bin => !bin.near m) := by
  induction bins with
  | nil =>
      intro rate _ _
      rw [mergeBins, List.filter_nil, List.filter_nil, List.map_nil, List.sum_nil, add_zero]
      rfl
  | cons bin rest ih =>
      intro rate hsorted hleast
      by_cases hnear : bin.near m = true
      · rw [mergeBins_cons, if_pos hnear, ih _ hsorted.of_cons
          fun b hb => hleast b (List.mem_cons_of_mem bin hb)]
        rw [List.filter_cons_of_pos hnear, List.filter_cons_of_neg (by simp [hnear]),
          List.map_cons, List.sum_cons, add_assoc]
      · -- Merging ends here, and no bin of the rest is near.
        have hfar : ∀ b ∈ bin :: rest, ¬ b.near m = true := by
          rw [List.forall_mem_cons]
          refine ⟨hnear, fun b hb => ?_⟩
          exact Bin.not_near_of_le m bin b (hleast bin List.mem_cons_self)
            (List.rel_of_pairwise_cons hsorted hb) hnear
        have hall : ((bin :: rest).filter fun b => !b.near m) = bin :: rest :=
          List.filter_eq_self.mpr fun b hb => by rw [Bool.eq_false_of_not_eq_true (hfar b hb),
            Bool.not_false]
        rw [mergeBins_cons, if_neg hnear, List.filter_eq_nil_iff.mpr hfar, hall, List.map_nil,
          List.sum_nil, add_zero]

/-- The first of the merged bins has the least magnitude and the rates of all bins
    near it. -/
theorem mergeSorted_cons (bin : Bin ℝ) (rest : List (Bin ℝ))
    (h : Bin.Ascending (bin :: rest)) :
    mergeSorted (bin :: rest) =
      ⟨bin.magnitude, (((bin :: rest).filter (Bin.near bin.magnitude)).map Bin.rate).sum⟩ ::
        mergeSorted ((bin :: rest).filter fun b => !b.near bin.magnitude) := by
  have hself := bin.near_self
  rw [mergeSorted, mergeBins_eq bin.magnitude rest bin.rate h.of_cons
    fun b hb => List.rel_of_pairwise_cons h hb]
  rw [List.filter_cons_of_pos hself, List.filter_cons_of_neg (by simp [hself]), List.map_cons,
    List.sum_cons]

/-- A merge takes one bin at least. -/
theorem length_filter_far_lt (bin : Bin ℝ) (rest : List (Bin ℝ)) :
    ((bin :: rest).filter fun b => !b.near bin.magnitude).length < (bin :: rest).length := by
  rw [List.filter_cons_of_neg (by simp [bin.near_self]), List.length_cons]
  exact Nat.lt_succ_of_le (List.length_filter_le _ rest)

/-- Two sorted lists of the same bins begin with the same magnitude. -/
theorem Bin.Ascending.head_eq {a b : Bin ℝ} {xs ys : List (Bin ℝ)} (hx : Ascending (a :: xs))
    (hy : Ascending (b :: ys)) (h : (a :: xs).Perm (b :: ys)) : a.magnitude = b.magnitude := by
  have hle : ∀ {c d : Bin ℝ} {zs : List (Bin ℝ)}, Ascending (c :: zs) → d ∈ c :: zs →
      c.magnitude ≤ d.magnitude := by
    intro c d zs hsorted hd
    rcases List.mem_cons.mp hd with heq | hrest
    · exact heq ▸ le_refl _
    · exact List.rel_of_pairwise_cons hsorted hrest
  exact le_antisymm (hle hx (h.mem_iff.mpr List.mem_cons_self))
    (hle hy (h.mem_iff.mp List.mem_cons_self))

/-- Two sorted lists of the same bins merge alike. The induction is on their length:
    the bins that are not near the first are fewer. -/
theorem mergeSorted_eq_of_perm (xs ys : List (Bin ℝ)) (hx : Bin.Ascending xs)
    (hy : Bin.Ascending ys) (hperm : xs.Perm ys) : mergeSorted xs = mergeSorted ys := by
  induction hlen : xs.length using Nat.strong_induction_on generalizing xs ys with
  | h n ih =>
      cases xs with
      | nil => rw [hperm.nil_eq]
      | cons a xs =>
          cases ys with
          | nil => exact absurd hperm.eq_nil (List.cons_ne_nil a xs)
          | cons b ys =>
              have hhead := hx.head_eq hy hperm
              have hnear := ((hperm.filter (Bin.near b.magnitude)).map Bin.rate).sum_eq
              have hfewer : ((a :: xs).filter fun bin => !bin.near b.magnitude).length < n := by
                rw [← hhead, ← hlen]
                exact length_filter_far_lt a xs
              have hfar := ih _ hfewer _ _ (hx.filter _) (hy.filter _)
                (hperm.filter fun bin => !bin.near b.magnitude) rfl
              rw [mergeSorted_cons a xs hx, mergeSorted_cons b ys hy, hhead, hnear, hfar]

/-- Sorting puts bins in ascending order. -/
theorem ascending_mergeSort (bins : List (Bin ℝ)) :
    Bin.Ascending (bins.mergeSort fun a b => Scalar.sortsBefore a.magnitude b.magnitude) := by
  have hbefore : ∀ x y : ℝ, Scalar.sortsBefore x y = true ↔ x ≤ y :=
    fun _ _ => decide_eq_true_iff
  have htrans : ∀ a b c : Bin ℝ, Scalar.sortsBefore a.magnitude b.magnitude = true →
      Scalar.sortsBefore b.magnitude c.magnitude = true →
      Scalar.sortsBefore a.magnitude c.magnitude = true := by
    intro a b c hab hbc
    rw [hbefore] at hab hbc ⊢
    exact hab.trans hbc
  have htotal : ∀ a b : Bin ℝ, (Scalar.sortsBefore a.magnitude b.magnitude
      || Scalar.sortsBefore b.magnitude a.magnitude) = true := by
    intro a b
    rw [Bool.or_eq_true, hbefore, hbefore]
    exact le_total _ _
  exact (List.pairwise_mergeSort htrans htotal bins).imp fun h => (hbefore _ _).mp h

theorem mergedBins_eq (bins : List (Bin ℝ)) :
    mergedBins bins
      = mergeSorted (bins.mergeSort fun a b => Scalar.sortsBefore a.magnitude b.magnitude) := by
  rw [mergedBins]
  cases bins.mergeSort fun a b => Scalar.sortsBefore a.magnitude b.magnitude with
  | nil => rfl
  | cons bin rest => rfl

/-- Merged bins do not depend on the order of the bins. -/
theorem mergedBins_eq_of_perm {xs ys : List (Bin ℝ)} (h : xs.Perm ys) :
    mergedBins xs = mergedBins ys := by
  rw [mergedBins_eq, mergedBins_eq]
  refine mergeSorted_eq_of_perm _ _ (ascending_mergeSort xs) (ascending_mergeSort ys) ?_
  exact (List.mergeSort_perm xs _).trans (h.trans (List.mergeSort_perm ys _).symm)

end Seismicity
