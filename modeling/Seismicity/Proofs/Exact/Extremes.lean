import Mathlib.Data.List.MinMax
import Seismicity.Proofs.Exact.Real
import Seismicity.Source.Point

/-!
# Extremes in Exact Arithmetic

The least and the greatest of a list of real numbers, and the greatest magnitude
of some bins.

All of them are loops that keep the best entry so far, each with a comparison of
its own that also has an answer for what is not a number. Over the reals every
entry is a number, the comparisons are the usual order, and the loops are the
minimum and the maximum of the library. So an extreme is known by being an entry
that no other entry passes, and the order in which the entries come does not
matter. Of no entries the extremes are zero.

## Theorems

* `foldl_greater_eq`, `foldl_max_spec`: A loop that keeps the greater of two numbers.
* `least_eq`, `greatest_eq`: The extremes as minimum and maximum.
* `least_spec`, `greatest_spec`: The extremes are entries that no other passes.
* `least_pair`, `greatest_pair`: The extremes of two numbers.
* `least_eq_of_perm`, `greatest_eq_of_perm`: Extremes do not depend on the order.
* `greatestMagnitude_spec`: The greatest magnitude.
-/

namespace Seismicity

namespace Exact

theorem greater_eq (x y : ℝ) : Scalar.greater x y = max x y := by
  by_cases hlt : x < y
  · rw [max_eq_right hlt.le]
    exact if_pos hlt
  · rw [max_eq_left (not_lt.mp hlt), Scalar.greater, if_neg hlt, if_pos (beq_self x)]

theorem foldl_greater_eq {β : Type} (f : β → ℝ) (xs : List β) (start : ℝ) :
    xs.foldl (fun best x => Scalar.greater best (f x)) start = (xs.map f).foldl max start := by
  rw [List.foldl_map]
  congr 1
  funext best x
  exact greater_eq best (f x)

/-- The maximum of some entries and a number to start from is among them, and none of
    them passes it. -/
theorem foldl_max_spec (xs : List ℝ) (start : ℝ) :
    xs.foldl max start ∈ start :: xs ∧ ∀ x ∈ start :: xs, x ≤ xs.foldl max start :=
  List.max?_eq_some_iff.mp List.max?_cons'

/-- All real numbers are equal to themselves. -/
theorem filter_beq_self (xs : List ℝ) : (xs.filter fun x => x == x) = xs := by
  rw [List.filter_eq_self]
  intro x _
  exact beq_self x

theorem least_eq (xs : List ℝ) : Scalar.least xs = xs.min?.getD 0 := by
  rw [Scalar.least, filter_beq_self]
  cases xs with
  | nil => rfl
  | cons x rest =>
      have hstep : (Scalar.lesser : ℝ → ℝ → ℝ) = min := by
        funext a b
        exact lesser_eq a b
      rw [List.min?_cons', Option.getD_some, hstep]

theorem greatest_eq (xs : List ℝ) : Scalar.greatest xs = xs.max?.getD 0 := by
  rw [Scalar.greatest, filter_beq_self]
  cases xs with
  | nil => exact neg_zero
  | cons x rest =>
      have hstep : (Scalar.greater : ℝ → ℝ → ℝ) = max := by
        funext a b
        exact greater_eq a b
      rw [List.max?_cons', Option.getD_some, hstep]

/-- The least of some numbers is one of them, and no other is less. -/
theorem least_spec (xs : List ℝ) (hne : xs ≠ []) :
    Scalar.least xs ∈ xs ∧ ∀ x ∈ xs, Scalar.least xs ≤ x := by
  rcases Option.ne_none_iff_exists'.mp (List.min?_eq_none_iff.not.mpr hne) with ⟨m, hm⟩
  rw [least_eq, hm]
  exact List.min?_eq_some_iff.mp hm

theorem greatest_spec (xs : List ℝ) (hne : xs ≠ []) :
    Scalar.greatest xs ∈ xs ∧ ∀ x ∈ xs, x ≤ Scalar.greatest xs := by
  rcases Option.ne_none_iff_exists'.mp (List.max?_eq_none_iff.not.mpr hne) with ⟨m, hm⟩
  rw [greatest_eq, hm]
  exact List.max?_eq_some_iff.mp hm

theorem least_pair (x y : ℝ) : Scalar.least [x, y] = min x y := by
  rw [least_eq, List.min?_cons', Option.getD_some, List.foldl_cons, List.foldl_nil]

theorem greatest_pair (x y : ℝ) : Scalar.greatest [x, y] = max x y := by
  rw [greatest_eq, List.max?_cons', Option.getD_some, List.foldl_cons, List.foldl_nil]

/-- The maximum does not depend on the order of the entries: it is an entry that no
    other passes. -/
theorem max?_eq_of_perm {xs ys : List ℝ} (h : xs.Perm ys) : xs.max? = ys.max? := by
  ext m
  simp only [List.max?_eq_some_iff, h.mem_iff]

theorem min?_eq_of_perm {xs ys : List ℝ} (h : xs.Perm ys) : xs.min? = ys.min? := by
  ext m
  simp only [List.min?_eq_some_iff, h.mem_iff]

theorem least_eq_of_perm {xs ys : List ℝ} (h : xs.Perm ys) :
    Scalar.least xs = Scalar.least ys := by
  rw [least_eq, least_eq, min?_eq_of_perm h]

theorem greatest_eq_of_perm {xs ys : List ℝ} (h : xs.Perm ys) :
    Scalar.greatest xs = Scalar.greatest ys := by
  rw [greatest_eq, greatest_eq, max?_eq_of_perm h]

end Exact

/-- The loop for the greatest magnitude keeps the greater of two. -/
theorem greatestMagnitude_step :
    (fun best m : ℝ => if Scalar.sortsBefore best m then m else best) = max := by
  funext best m
  have hbefore : Scalar.sortsBefore best m = true ↔ best ≤ m := decide_eq_true_iff
  by_cases hle : best ≤ m
  · rw [max_eq_right hle, if_pos (hbefore.mpr hle)]
  · rw [max_eq_left (not_le.mp hle).le, if_neg (hbefore.not.mpr hle)]

/-- The greatest magnitude of some bins is that of one of them, and no other bin
    has a greater one. -/
theorem greatestMagnitude_spec (bins : List (Bin ℝ)) (hne : bins ≠ []) :
    (∃ bin ∈ bins, bin.magnitude = greatestMagnitude bins) ∧
      ∀ bin ∈ bins, bin.magnitude ≤ greatestMagnitude bins := by
  rw [← List.mem_map, greatestMagnitude, greatestMagnitude_step]
  cases bins with
  | nil => exact absurd rfl hne
  | cons first rest =>
      have hbounds := Exact.foldl_max_spec (rest.map Bin.magnitude) first.magnitude
      rw [← List.map_cons] at hbounds
      refine ⟨hbounds.1, ?_⟩
      intro bin hbin
      exact hbounds.2 bin.magnitude (List.mem_map_of_mem hbin)

end Seismicity
