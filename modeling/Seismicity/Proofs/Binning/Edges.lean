import Mathlib.Algebra.Order.Floor.Semiring
import Mathlib.Tactic.Positivity
import Seismicity.Proofs.Binning.Classes
import Seismicity.Proofs.Exact.Extremes

/-!
# Edges of Cells

In exact arithmetic, where the cells of an axis lie and which coordinates they hold.

The cells divide the span of the coordinates evenly, so their edges are evenly spaced from
the least coordinate to the greatest. There are as many cells as the span has spacings,
rounded up, and never none. This makes a cell no wider than the spacing, and it makes one
cell of a span of zero, where a width of zero could not tell coordinates apart.

The index of a cell is a whole part that is limited twice, to zero and to the last cell. In
the range of the coordinates the first limit is not met, and the second only by the greatest
coordinate itself, which is the upper edge of the last cell. What is below the upper edge of
any other cell is therefore strictly below it.

## Main definitions

* `Axis.edge`: The edges of the cells of an axis.
* `Axis.Regular`: The cells of an axis have no negative width.
* `Axis.Spans`: The cells of an axis evenly span some coordinates.
* `Binning.Tight`: Groups of points are no wider than the spacing.

## Theorems

* `across_eq`, `width_le`: How many cells there are, and how wide.
* `cellIndex_eq`, `cellIndex_mono`: The index of a coordinate.
* `edge_le`, `le_edge_succ`, `lt_edge_succ`: A coordinate lies between the edges of its
  cell.
* `abs_sub_le_width`, `abs_sub_le_delta`: Coordinates in one cell are no further apart than
  it is wide, or than the spacing.
* `across_spans`: The cells of an axis span its coordinates.
* `cells_tight`: Groups are as tight as the spacing promises.
* `cells_halves`: Points on the edges of cells.
-/

namespace Seismicity

namespace Axis

/-- The edges of the cells, from the lower edge of the first cell on. -/
noncomputable def edge (axis : Axis ℝ) (k : ℕ) : ℝ := axis.start + k * axis.width

/-- There is a cell, no cell has a negative width, and there is only one if it has no width
    at all. -/
structure Regular (axis : Axis ℝ) : Prop where
  one_le : 1 ≤ axis.cells
  width_nonneg : 0 ≤ axis.width
  flat : axis.width = 0 → axis.cells = 1

/-- The index of a cell, as the whole part of a quotient. -/
theorem cellIndex_eq (axis : Axis ℝ) (value : ℝ) : axis.cellIndex value =
    if axis.width ≤ 0 then 0
    else min ⌊(value - axis.start) / axis.width⌋₊ (axis.cells - 1) := by
  have hwhole : ∀ x : ℝ, Scalar.wholePart (Scalar.greater (Scalar.floor x) 0.0) = ⌊x⌋₊ := by
    intro x
    have hfloor : max (⌊x⌋ : ℝ) 0 = (⌊x⌋₊ : ℕ) := by
      have hmax : max ⌊x⌋ 0 = (⌊x⌋₊ : ℤ) := by
        rw [← Int.floor_toNat]
        omega
      exact_mod_cast hmax
    rw [Exact.greater_eq, Exact.zero_eq]
    change ⌊max (⌊x⌋ : ℝ) 0⌋₊ = ⌊x⌋₊
    rw [hfloor, Nat.floor_natCast]
  rw [cellIndex, hwhole, Exact.zero_eq]

/-- A greater coordinate does not lie in an earlier cell. -/
theorem cellIndex_mono (axis : Axis ℝ) : Monotone axis.cellIndex := by
  intro v w hle
  rw [cellIndex_eq, cellIndex_eq]
  by_cases hflat : axis.width ≤ 0
  · rw [if_pos hflat, if_pos hflat]
  · rw [if_neg hflat, if_neg hflat]
    have hquotient := div_le_div_of_nonneg_right (sub_le_sub_right hle axis.start)
      (not_le.mp hflat).le
    exact min_le_min_right _ (Nat.floor_mono hquotient)

section Regular

variable {axis : Axis ℝ} (h : axis.Regular) {v : ℝ}

include h

omit h in
theorem edge_le (hlow : axis.start ≤ v) : axis.edge (axis.cellIndex v) ≤ v := by
  rw [cellIndex_eq, edge]
  by_cases hflat : axis.width ≤ 0
  · rw [if_pos hflat, Nat.cast_zero, zero_mul, add_zero]
    exact hlow
  · rw [if_neg hflat]
    have hwidth := not_le.mp hflat
    have hquotient := Nat.floor_le (div_nonneg (sub_nonneg.mpr hlow) hwidth.le)
    have hindex : ((min ⌊(v - axis.start) / axis.width⌋₊ (axis.cells - 1) : ℕ) : ℝ)
        ≤ (v - axis.start) / axis.width :=
      (Nat.cast_le.mpr (min_le_left _ _)).trans hquotient
    rw [le_div_iff₀ hwidth] at hindex
    linarith

/-- Below the last cell a coordinate is strictly below the upper edge of its cell. -/
theorem lt_edge_succ (hcell : axis.cellIndex v + 1 < axis.cells) :
    v < axis.edge (axis.cellIndex v + 1) := by
  rw [cellIndex_eq] at hcell ⊢
  by_cases hflat : axis.width ≤ 0
  · -- There is only one cell then.
    have hone := h.flat (le_antisymm hflat h.width_nonneg)
    omega
  · rw [if_neg hflat] at hcell ⊢
    have hwidth := not_le.mp hflat
    have hfirst : min ⌊(v - axis.start) / axis.width⌋₊ (axis.cells - 1)
        = ⌊(v - axis.start) / axis.width⌋₊ := by omega
    have hquotient := Nat.lt_floor_add_one ((v - axis.start) / axis.width)
    rw [hfirst, edge]
    rw [div_lt_iff₀ hwidth] at hquotient
    push_cast
    linarith

theorem le_edge_succ (hhigh : v ≤ axis.edge axis.cells) :
    v ≤ axis.edge (axis.cellIndex v + 1) := by
  by_cases hcell : axis.cellIndex v + 1 < axis.cells
  · exact (lt_edge_succ h hcell).le
  · have hlast : axis.cellIndex v + 1 = axis.cells := by
      have hlt := cellIndex_lt axis h.one_le v
      omega
    rw [hlast]
    exact hhigh

/-- The upper edge of the last cell lies in the last cell. -/
theorem cellIndex_last : axis.cellIndex (axis.edge axis.cells) + 1 = axis.cells := by
  have hone := h.one_le
  rw [cellIndex_eq]
  by_cases hflat : axis.width ≤ 0
  · rw [if_pos hflat, h.flat (le_antisymm hflat h.width_nonneg)]
  · have hquotient : (axis.edge axis.cells - axis.start) / axis.width = axis.cells := by
      rw [edge, add_sub_cancel_left, mul_div_cancel_right₀ _ (not_le.mp hflat).ne']
    rw [if_neg hflat, hquotient, Nat.floor_natCast]
    omega

/-- Coordinates in one cell are no further apart than the cell is wide. -/
theorem abs_sub_le_width {w : ℝ} (hv : axis.start ≤ v ∧ v ≤ axis.edge axis.cells)
    (hw : axis.start ≤ w ∧ w ≤ axis.edge axis.cells)
    (hsame : axis.cellIndex v = axis.cellIndex w) : |v - w| ≤ axis.width := by
  have hvlow := edge_le hv.1
  have hvhigh := le_edge_succ h hv.2
  have hwlow := edge_le hw.1
  have hwhigh := le_edge_succ h hw.2
  rw [edge] at hvlow hvhigh hwlow hwhigh
  rw [hsame] at hvlow hvhigh
  push_cast at hvhigh hwhigh
  rw [abs_le]
  constructor <;> linarith

end Regular

section Across

variable (values : List ℝ) (delta : ℝ)

/-- There are as many cells as the span has spacings, rounded up, and never none. -/
theorem cellsNeeded_eq : cellsNeeded values delta = (max ⌈span values / delta⌉₊ 1 : ℕ) := by
  have hint : max ⌈span values / delta⌉ 1 = ((max ⌈span values / delta⌉₊ 1 : ℕ) : ℤ) := by
    rw [← Int.ceil_toNat]
    omega
  change Scalar.greater (⌈span values / delta⌉ : ℝ) 1.0 = _
  rw [Exact.greater_eq, Exact.one_eq]
  exact_mod_cast hint

theorem cells_eq : (across values delta).cells = max ⌈span values / delta⌉₊ 1 := by
  change ⌊cellsNeeded values delta⌋₊ = _
  rw [cellsNeeded_eq, Nat.floor_natCast]

/-- The cells that span some coordinates. -/
theorem across_eq : across values delta =
    { start := Scalar.least values
      width := span values / (max ⌈span values / delta⌉₊ 1 : ℕ)
      cells := max ⌈span values / delta⌉₊ 1 } := by
  rw [← cells_eq]
  rfl

theorem one_le_cells : 1 ≤ (across values delta).cells := by
  rw [cells_eq]
  exact le_max_right _ _

theorem width_eq : (across values delta).width = span values / (across values delta).cells := rfl

theorem cells_mul_width :
    (across values delta).cells * (across values delta).width = span values := by
  have hcells : ((across values delta).cells : ℝ) ≠ 0 :=
    Nat.cast_ne_zero.mpr (Nat.one_le_iff_ne_zero.mp (one_le_cells values delta))
  rw [width_eq, mul_div_cancel₀ _ hcells]

/-- No cell is wider than the spacing. -/
theorem width_le (hdelta : 0 < delta) : (across values delta).width ≤ delta := by
  have hpos : 0 < ((across values delta).cells : ℝ) :=
    Nat.cast_pos.mpr (one_le_cells values delta)
  have hceil : span values / delta ≤ ((across values delta).cells : ℝ) := by
    rw [cells_eq]
    exact (Nat.le_ceil _).trans (Nat.cast_le.mpr (le_max_left _ _))
  rw [width_eq, div_le_iff₀ hpos]
  rw [div_le_iff₀ hdelta] at hceil
  linarith

variable {values}

theorem span_nonneg (hne : values ≠ []) : 0 ≤ span values := by
  rw [span, sub_nonneg]
  exact (Exact.least_spec values hne).2 _ (Exact.greatest_spec values hne).1

theorem across_regular (hne : values ≠ []) : (across values delta).Regular where
  one_le := one_le_cells values delta
  width_nonneg := div_nonneg (span_nonneg hne) (Nat.cast_nonneg _)
  flat := by
    intro hwidth
    have hspan := cells_mul_width values delta
    rw [hwidth, mul_zero] at hspan
    rw [cells_eq, ← hspan, zero_div, Nat.ceil_zero]
    rfl

/-- The last edge is the greatest coordinate. -/
theorem edge_cells :
    (across values delta).edge (across values delta).cells = Scalar.greatest values := by
  have hstart : (across values delta).start = Scalar.least values := rfl
  rw [edge, cells_mul_width, hstart, span]
  ring

theorem mem_range {v : ℝ} (hv : v ∈ values) : (across values delta).start ≤ v ∧
    v ≤ (across values delta).edge (across values delta).cells := by
  rw [edge_cells]
  have hne := List.ne_nil_of_mem hv
  exact ⟨(Exact.least_spec values hne).2 v hv, (Exact.greatest_spec values hne).2 v hv⟩

/-- Coordinates in one cell are no further apart than the spacing. -/
theorem abs_sub_le_delta (hdelta : 0 < delta) {v w : ℝ} (hv : v ∈ values) (hw : w ∈ values)
    (hsame : (across values delta).cellIndex v = (across values delta).cellIndex w) :
    |v - w| ≤ delta := by
  have hregular := across_regular delta (List.ne_nil_of_mem hv)
  have hwidth := abs_sub_le_width hregular (mem_range delta hv) (mem_range delta hw) hsame
  exact hwidth.trans (width_le values delta hdelta)

end Across

/-- The cells of an axis evenly span some coordinates, are no wider than a spacing, and each
    holds what lies between its edges. -/
structure Spans (axis : Axis ℝ) (values : List ℝ) (delta : ℝ) : Prop where
  /-- The edges begin at the least coordinate. -/
  first : axis.edge 0 ∈ values ∧ ∀ v ∈ values, axis.edge 0 ≤ v
  /-- They end at the greatest. -/
  last : axis.edge axis.cells ∈ values ∧ ∀ v ∈ values, v ≤ axis.edge axis.cells
  width_le : axis.width ≤ delta
  cellIndex_lt : ∀ v, axis.cellIndex v < axis.cells
  cellIndex_mono : Monotone axis.cellIndex
  /-- A coordinate in range lies between the edges of its cell. -/
  between : ∀ v, axis.edge 0 ≤ v → v ≤ axis.edge axis.cells →
    axis.edge (axis.cellIndex v) ≤ v ∧ v ≤ axis.edge (axis.cellIndex v + 1)
  /-- It is at the upper edge of the last cell only. -/
  below : ∀ v, axis.cellIndex v + 1 < axis.cells → v < axis.edge (axis.cellIndex v + 1)
  /-- The greatest coordinate lies in the last cell. -/
  top : axis.cellIndex (axis.edge axis.cells) + 1 = axis.cells

theorem across_spans (values : List ℝ) (hne : values ≠ []) (delta : ℝ) (hdelta : 0 < delta) :
    (across values delta).Spans values delta := by
  have hregular := across_regular delta hne
  have hstart : (across values delta).edge 0 = Scalar.least values := by
    rw [edge, Nat.cast_zero, zero_mul, add_zero]
    rfl
  exact
    { first := by
        rw [hstart]
        exact Exact.least_spec values hne
      last := by
        rw [edge_cells]
        exact Exact.greatest_spec values hne
      width_le := width_le values delta hdelta
      cellIndex_lt := cellIndex_lt _ hregular.one_le
      cellIndex_mono := cellIndex_mono _
      between := by
        rw [hstart]
        exact fun v hlow hhigh => ⟨edge_le hlow, le_edge_succ hregular hhigh⟩
      below := fun v hcell => lt_edge_succ hregular hcell
      top := cellIndex_last hregular }

end Axis

namespace Binning

/-- The key of a point is made of the cells of its coordinates. -/
theorem keys_getElem? {α : Type} [Scalar α] (laid : Axis α × Axis α) (xs ys : List α) (i : ℕ) :
    (keys laid xs ys)[i]?
      = (xs.zip ys)[i]?.map fun p => (laid.1.cellIndex p.1, laid.2.cellIndex p.2) :=
  List.getElem?_map

/-- Groups of points are no wider than the spacing along either axis, and points at one place
    are in one group. -/
structure Tight (xs ys : List ℝ) (deltaX deltaY : ℝ) (groups : List (List ℕ)) : Prop where
  lengths : xs.length = ys.length
  /-- The groups are the classes of points that lie in one column and one row. -/
  classes : Classes (keys (Axis.across xs deltaX, Axis.across ys deltaY) xs ys) groups
  near : ∀ group ∈ groups, ∀ i ∈ group, ∀ j ∈ group, ∃ p q, (xs.zip ys)[i]? = some p ∧
    (xs.zip ys)[j]? = some q ∧ |p.1 - q.1| ≤ deltaX ∧ |p.2 - q.2| ≤ deltaY
  together : ∀ i j p, (xs.zip ys)[i]? = some p → (xs.zip ys)[j]? = some p →
    ∃ group ∈ groups, i ∈ group ∧ j ∈ group
  columns : xs ≠ [] → (Axis.across xs deltaX).Spans xs deltaX
  rows : ys ≠ [] → (Axis.across ys deltaY).Spans ys deltaY

/-- Groups are as tight as the spacing promises. -/
theorem cells_tight (xs ys : List ℝ) (deltaX deltaY : ℝ) (groups : List (List ℕ))
    (h : cells xs ys deltaX deltaY = .ok groups) : Tight xs ys deltaX deltaY groups := by
  rcases cells_ok xs ys deltaX deltaY groups h with ⟨hfault, hgroups⟩
  rcases (fault?_eq_none_iff xs ys deltaX deltaY).mp hfault with
    ⟨hlengths, ⟨⟨hX, _⟩, hY, _⟩, _⟩
  rw [Exact.zero_eq] at hX hY
  have hclasses : Classes (keys (Axis.across xs deltaX, Axis.across ys deltaY) xs ys) groups := by
    rw [hgroups]
    exact groupPositions_classes _
  refine
    { lengths := hlengths
      classes := hclasses
      near := fun group hgroup i hi j hj => ?_
      together := fun i j p hp hq => ?_
      columns := fun hne => Axis.across_spans xs hne deltaX hX
      rows := fun hne => Axis.across_spans ys hne deltaY hY }
  · have hlti := hclasses.lt_length hgroup hi
    have hltj := hclasses.lt_length hgroup hj
    have hsame := (hclasses.shared i hlti j hltj).mp ⟨group, hgroup, hi, hj⟩
    rw [keys, List.length_map] at hlti hltj
    have hp := List.getElem?_eq_getElem hlti
    have hq := List.getElem?_eq_getElem hltj
    rw [keys_getElem?, keys_getElem?, hp, hq, Option.map_some, Option.map_some,
      Option.some.injEq, Prod.mk.injEq] at hsame
    have hmemp := List.of_mem_zip (List.getElem_mem hlti)
    have hmemq := List.of_mem_zip (List.getElem_mem hltj)
    exact ⟨_, _, hp, hq,
      Axis.abs_sub_le_delta deltaX hX hmemp.1 hmemq.1 hsame.1,
      Axis.abs_sub_le_delta deltaY hY hmemp.2 hmemq.2 hsame.2⟩
  · have hkey : ∀ k, (xs.zip ys)[k]? = some p →
        k < (keys (Axis.across xs deltaX, Axis.across ys deltaY) xs ys).length := by
      intro k hk
      rw [keys, List.length_map]
      exact (List.getElem?_eq_some_iff.mp hk).1
    refine (hclasses.shared i (hkey i hp) j (hkey j hq)).mpr ?_
    rw [keys_getElem?, keys_getElem?, hp, hq]

/-- Points on the edges of cells are in the cells above, except for the last. -/
theorem cells_halves :
    cells [0, 1 / 2, 1, 2] [0, 0, 0, 0] (1 : ℝ) 1 = .ok [[0, 1], [2, 3]] := by
  have hleastX : Scalar.least ([0, 1 / 2, 1, 2] : List ℝ) = 0 := by
    rw [Exact.least_eq, List.min?_cons']
    norm_num
  have hspanX : Axis.span ([0, 1 / 2, 1, 2] : List ℝ) = 2 := by
    rw [Axis.span, hleastX, Exact.greatest_eq, List.max?_cons']
    norm_num
  have hleastY : Scalar.least ([0, 0, 0, 0] : List ℝ) = 0 := by
    rw [Exact.least_eq, List.min?_cons']
    norm_num
  have hspanY : Axis.span ([0, 0, 0, 0] : List ℝ) = 0 := by
    rw [Axis.span, hleastY, Exact.greatest_eq, List.max?_cons']
    norm_num
  have hX : Axis.across ([0, 1 / 2, 1, 2] : List ℝ) 1 = ⟨0, 1, 2⟩ := by
    rw [Axis.across_eq, hleastX, hspanX]
    norm_num
  have hY : Axis.across ([0, 0, 0, 0] : List ℝ) 1 = ⟨0, 0, 1⟩ := by
    rw [Axis.across_eq, hleastY, hspanY]
    norm_num
  have hkeys : keys (⟨0, 1, 2⟩, ⟨0, 0, 1⟩) [0, 1 / 2, 1, 2] ([0, 0, 0, 0] : List ℝ)
      = [(0, 0), (0, 0), (1, 0), (1, 0)] := by
    simp only [keys, List.zip_cons_cons, List.zip_nil_right, List.map_cons, List.map_nil,
      Axis.cellIndex_eq]
    norm_num
  refine (cells_eq_ok_iff _ _ (List.cons_ne_nil _ _) _ _ _).mpr ⟨?_, ?_, ?_⟩
  · rw [fault?_eq_none_iff, Exact.zero_eq]
    exact ⟨rfl, ⟨⟨one_pos, rfl⟩, one_pos, rfl⟩, fun _ _ => rfl⟩
  · rw [Axis.cellsNeeded_eq, Axis.cellsNeeded_eq, hspanX, hspanY, Axis.maxCells]
    norm_num
  · rw [hX, hY, hkeys]
    decide

end Binning

end Seismicity
