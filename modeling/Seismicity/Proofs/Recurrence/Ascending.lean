import Mathlib.Data.List.Chain
import Seismicity.Proofs.Exact.Real
import Seismicity.Proofs.Source.Acceptance
import Seismicity.Recurrence

/-!
# The Order of Bins

In exact arithmetic an accepted distribution has its bins in strictly ascending order of
magnitude, and so has a source.

Where magnitudes are laid out in even steps this is because the width of a step is
positive; where they are written down it is checked, each against the one before. Leaving
out the bins without any rate keeps the order.

## Theorems

* `Recurrence.binWidth_pos`: A bin width that is accepted is positive.
* `Recurrence.pairwise_of_orderFault?`: The check of written magnitudes.
* `Recurrence.bins_ascending`: The bins of an accepted distribution.
* `PointSource.bins_ascending`: The bins of an accepted source.
-/

namespace Seismicity

namespace Recurrence

theorem binWidth_pos (binWidth : ℝ) (h : binWidthFault? binWidth = none) : 0 < binWidth := by
  simp only [binWidthFault?, ite_some_eq_none_iff, Bool.or_eq_true, decide_eq_true_eq, not_or,
    and_true] at h
  exact Exact.zero_eq ▸ not_le.mp h.2

/-- Each magnitude is compared with the one before only, but the order is transitive. -/
theorem pairwise_of_orderFault? (magnitudes : List ℝ) (h : orderFault? magnitudes = none) :
    magnitudes.Pairwise (· < ·) := by
  rw [← List.isChain_iff_pairwise]
  induction magnitudes with
  | nil => exact List.isChain_nil
  | cons earlier rest ih =>
      cases rest with
      | nil => exact List.isChain_singleton earlier
      | cons later rest =>
          rw [orderFault?, ite_some_eq_none_iff] at h
          exact List.isChain_cons_cons.mpr ⟨not_le.mp h.1, ih h.2⟩

/-- Magnitudes at even steps ascend. -/
theorem stepped_lt (low : ℝ) {binWidth : ℝ} (hwidth : 0 < binWidth) {i j : ℕ} (h : i < j) :
    low + Scalar.ofNat i * binWidth < low + Scalar.ofNat j * binWidth := by
  have hcast : (i : ℝ) < j := Nat.cast_lt.mpr h
  exact add_lt_add_right (mul_lt_mul_of_pos_right hcast hwidth) low

/-- The bins of an accepted distribution are in strictly ascending order. -/
theorem bins_ascending (r : Recurrence ℝ) (h : r.fault? = none) :
    r.bins.Pairwise fun a b => a.magnitude < b.magnitude := by
  cases r with
  | evenlyDiscretized low binWidth rates =>
      rw [fault?, Option.or_eq_none_iff] at h
      rw [bins, List.pairwise_iff_getElem]
      intro i j hi hj hlt
      simp only [List.getElem_map, List.getElem_zipIdx, zero_add]
      exact stepped_lt low (binWidth_pos binWidth h.1) hlt
  | truncated low high binWidth a b =>
      rw [fault?, Option.or_eq_none_iff] at h
      simp only [bins, List.pairwise_map]
      exact List.pairwise_lt_range.imp fun hlt => stepped_lt _ (binWidth_pos binWidth h.1) hlt
  | arbitrary magnitudes rates =>
      simp only [fault?, ite_some_eq_none_iff, Option.or_eq_none_iff, bne_iff_ne, ne_eq,
        not_not] at h
      have hwritten : ((magnitudes.zip rates).map Prod.fst) = magnitudes :=
        List.map_fst_zip h.1.le
      have hascending := pairwise_of_orderFault? magnitudes h.2.2.1
      rw [← hwritten, List.pairwise_map] at hascending
      rw [bins, List.pairwise_map]
      exact hascending

end Recurrence

/-- So are those of an accepted source. -/
theorem PointSource.bins_ascending (s : PointSource ℝ) (h : s.Accepted) :
    s.bins.Pairwise fun a b => a.magnitude < b.magnitude :=
  (s.recurrence.bins_ascending h.valid.recurrence).filter _

end Seismicity
