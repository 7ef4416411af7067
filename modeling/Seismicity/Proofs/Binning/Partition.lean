import Seismicity.Proofs.Binning.Classes
import Seismicity.Proofs.Double.Counts

/-!
# The Partition into Cells

Binning with doubles returns the classes of points with equal cells, and the cells of both
axes can be counted.

How a cell is found for a coordinate takes roundings, an infinity or a quotient by zero as
they come: whatever number results, it is limited to the last cell. So all that is asked of
the arithmetic is that there is a last cell. The number of cells is the whole part of a
double that is at least one, since it is the greater of something and one, and at most
10 ^ 15, since more are refused. The whole part of such a double is within the same bounds
(`Double.wholePart_bounds`).

## Theorems

* `Axis.across_counted`: The cells of an axis that is not refused.
* `cells_classes`: Binning returns the classes of equal cells.
-/

namespace Seismicity

/-- The cells of an axis can be counted unless the axis is refused. -/
theorem Axis.across_counted (values : List Float) (delta : Float)
    (h : cellsNeeded values delta ≤ maxCells) : (across values delta).Counted := by
  have hlow : 1.0 ≤ cellsNeeded values delta := Double.one_le_greater _
  have hbounds := Double.wholePart_bounds _ hlow h
  exact
    { one_le := hbounds.1
      le_max := hbounds.2
      cellIndex_lt := cellIndex_lt _ hbounds.1 }

namespace Binning

/-- Points that can be binned are grouped into the classes of equal cells. Each position is in
    one group and there once, no group is empty, positions share a group exactly if the points
    lie in one cell, they increase within a group, and the groups come in the order of their
    first positions. Unless there are no points, both axes have a cell and no more than can be
    counted, and no cell index passes the last cell. -/
theorem cells_classes (xs ys : List Float) (deltaX deltaY : Float) (groups : List (List Nat))
    (h : cells xs ys deltaX deltaY = .ok groups) :
    xs.length = ys.length ∧
    (keys (Axis.across xs deltaX, Axis.across ys deltaY) xs ys).length = xs.length ∧
    Classes (keys (Axis.across xs deltaX, Axis.across ys deltaY) xs ys) groups ∧
    (xs ≠ [] →
      axes xs ys deltaX deltaY = .ok (Axis.across xs deltaX, Axis.across ys deltaY) ∧
      (Axis.across xs deltaX).Counted ∧ (Axis.across ys deltaY).Counted) := by
  rcases cells_ok xs ys deltaX deltaY groups h with ⟨hfault, hgroups⟩
  have hlength := ((fault?_eq_none_iff xs ys deltaX deltaY).mp hfault).1
  refine ⟨hlength, keys_length _ xs ys hlength, ?_, fun hne => ?_⟩
  · rw [hgroups]
    exact groupPositions_classes _
  · have hcounted := ((cells_eq_ok_iff xs ys hne deltaX deltaY groups).mp h).2.1
    exact ⟨(axes_eq_ok_iff xs ys deltaX deltaY _).mpr ⟨hcounted, rfl⟩,
      Axis.across_counted xs deltaX hcounted.1, Axis.across_counted ys deltaY hcounted.2⟩

/-- Two groups of points far apart, whose points come mixed. -/
theorem cells_classes_mixed :
    cells [0.0, 0.01, 5.0, 0.02, 4.99] [0.0, 0.0, 0.0, 0.01, 0.0] (0.1 : Float) 0.1
      = .ok [[0, 1, 3], [2, 4]] ∧
    Classes (keys (Axis.across [0.0, 0.01, 5.0, 0.02, 4.99] (0.1 : Float),
      Axis.across [0.0, 0.0, 0.0, 0.01, 0.0] 0.1) [0.0, 0.01, 5.0, 0.02, 4.99]
      [0.0, 0.0, 0.0, 0.01, 0.0]) [[0, 1, 3], [2, 4]] ∧
    (Axis.across [0.0, 0.01, 5.0, 0.02, 4.99] (0.1 : Float)).cells = 50 ∧
    (Axis.across [0.0, 0.01, 5.0, 0.02, 4.99] (0.1 : Float)).cellIndex 5.0 = 49 := by
  have hsome : (cells [0.0, 0.01, 5.0, 0.02, 4.99] [0.0, 0.0, 0.0, 0.01, 0.0] (0.1 : Float)
      0.1).toOption = some [[0, 1, 3], [2, 4]] := by decide +kernel
  have hok : cells [0.0, 0.01, 5.0, 0.02, 4.99] [0.0, 0.0, 0.0, 0.01, 0.0] (0.1 : Float) 0.1
      = .ok [[0, 1, 3], [2, 4]] := by
    cases hcells : cells [0.0, 0.01, 5.0, 0.02, 4.99] [0.0, 0.0, 0.0, 0.01, 0.0] (0.1 : Float)
        0.1 with
    | error fault =>
        rw [hcells] at hsome
        exact absurd hsome (by simp only [Except.toOption, reduceCtorEq, not_false_eq_true])
    | ok groups =>
        rw [hcells] at hsome
        exact congrArg _ (Option.some.inj hsome)
  exact ⟨hok, (cells_classes _ _ _ _ _ hok).2.2.1, by decide +kernel, by decide +kernel⟩

end Binning

end Seismicity
