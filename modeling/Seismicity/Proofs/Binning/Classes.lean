import Mathlib.Algebra.Group.Nat.Defs
import Mathlib.Data.List.Induction
import Mathlib.Tactic.SplitIfs
import Seismicity.Proofs.Binning.Positions

/-!
# Classes of Equal Keys

Binning returns the classes of points with equal keys, whatever the arithmetic.

`groupPositions_eq` has found the groups of positions: one for each key that occurs. That
each position is in one of them is known from there. What is added here is what a reader of
the result relies on. The positions of a key are those at which it stands, in increasing
order, and the groups come in the order of their first positions. The last is shown by
induction on the list of keys from its end, since that is how repeated keys are erased: a
further key leaves the first positions of all earlier ones alone, and its own is later
than theirs.

The checks before the grouping are gone through once (`cells_eq_ok_iff`).

## Main definitions

* `Binning.Classes`: Groups of positions are the classes of equal keys.
* `Axis.Counted`: The cells of an axis can be counted.

## Theorems

* `mem_indicesOf`, `indicesOf_increasing`: The positions of a key.
* `pairwise_first_lt`: Keys come in the order of their first positions.
* `groupPositions_classes`: Grouping positions gives the classes of the keys.
* `fault?_eq_none_iff`, `axes_eq_ok_iff`, `cells_eq_ok_iff`: When points can be binned.
* `cells_ok`: What they are grouped by.
* `cellIndex_lt`: No cell index passes the last cell.
-/

namespace Seismicity

namespace Binning

section Keys

variable {κ : Type} [BEq κ] [LawfulBEq κ]

/-- The positions of a key are those at which it stands. -/
theorem mem_indicesOf (keys : List κ) (key : κ) (i : Nat) :
    i ∈ indicesOf key keys.zipIdx ↔ keys[i]? = some key := by
  rw [indicesOf, List.mem_map]
  constructor
  · rintro ⟨entry, hmem, rfl⟩
    rw [List.mem_filter, beq_iff_eq] at hmem
    rw [← hmem.2]
    exact List.mem_zipIdx_iff_getElem?.mp hmem.1
  · intro hi
    exact ⟨(key, i), List.mem_filter.mpr ⟨List.mem_zipIdx_iff_getElem?.mpr hi, BEq.rfl⟩, rfl⟩

omit [LawfulBEq κ] in
/-- They come in increasing order. -/
theorem indicesOf_increasing (keys : List κ) (key : κ) :
    (indicesOf key keys.zipIdx).Pairwise (· < ·) := by
  have hsublist : (indicesOf key keys.zipIdx).Sublist (keys.zipIdx.map Prod.snd) :=
    List.filter_sublist.map Prod.snd
  rw [List.zipIdx_map_snd] at hsublist
  exact List.Pairwise.sublist hsublist List.pairwise_lt_range'

/-- A key that occurs has a first position. -/
theorem exists_first (keys : List κ) (key : κ) (h : key ∈ keys) :
    ∃ i < keys.length, (indicesOf key keys.zipIdx).head? = some i := by
  rcases List.mem_iff_getElem?.mp h with ⟨k, hk⟩
  have hmem := (mem_indicesOf keys key k).mpr hk
  cases hfirst : (indicesOf key keys.zipIdx).head? with
  | none =>
      rw [List.head?_eq_none_iff.mp hfirst] at hmem
      exact absurd hmem List.not_mem_nil
  | some i =>
      have hi := (mem_indicesOf keys key i).mp (List.mem_of_mem_head? hfirst)
      exact ⟨i, (List.getElem?_eq_some_iff.mp hi).1, rfl⟩

omit [BEq κ] [LawfulBEq κ] in
theorem zipIdx_concat (keys : List κ) (key : κ) :
    (keys ++ [key]).zipIdx = keys.zipIdx ++ [(key, keys.length)] := by
  rw [List.zipIdx_append, Nat.zero_add]
  rfl

/-- A further key leaves the first positions of earlier keys alone. -/
theorem first_concat (keys : List κ) (key k : κ) (h : k ∈ keys) :
    (indicesOf k (keys ++ [key]).zipIdx).head? = (indicesOf k keys.zipIdx).head? := by
  rcases exists_first keys k h with ⟨i, _, hi⟩
  rw [zipIdx_concat]
  by_cases hk : k = key
  · subst hk
    rw [indicesOf_concat_self, List.head?_append, hi, Option.some_or]
  · rw [indicesOf_concat_other key k _ _ hk]

/-- Keys come in the order of their first positions. -/
theorem pairwise_first_lt (keys : List κ) :
    keys.eraseDups.Pairwise fun a b => ∃ i j, (indicesOf a keys.zipIdx).head? = some i ∧
      (indicesOf b keys.zipIdx).head? = some j ∧ i < j := by
  induction keys using List.reverseRecOn with
  | nil => exact List.Pairwise.nil
  | append_singleton keys key ih =>
      have hold : keys.eraseDups.Pairwise fun a b => ∃ i j,
          (indicesOf a (keys ++ [key]).zipIdx).head? = some i ∧
          (indicesOf b (keys ++ [key]).zipIdx).head? = some j ∧ i < j := by
        refine ih.imp_of_mem fun ha hb hlt => ?_
        rwa [first_concat keys key _ (List.mem_eraseDups.mp ha),
          first_concat keys key _ (List.mem_eraseDups.mp hb)]
      by_cases hkey : key ∈ keys
      · rwa [eraseDups_concat_of_mem keys key hkey]
      · -- The new key is found at the end only, behind all other keys.
        have hlast : (indicesOf key (keys ++ [key]).zipIdx).head? = some keys.length := by
          rw [zipIdx_concat, indicesOf_concat_self, indicesOf_eq_nil key keys.zipIdx (by
            rwa [List.zipIdx_map_fst])]
          rfl
        rw [eraseDups_concat_of_notMem keys key hkey, List.pairwise_append]
        refine ⟨hold, List.pairwise_singleton _ _, fun a ha b hb => ?_⟩
        have ha' := List.mem_eraseDups.mp ha
        rcases exists_first keys a ha' with ⟨i, hlt, hi⟩
        rw [List.mem_singleton.mp hb]
        exact ⟨i, keys.length, (first_concat keys key a ha').trans hi, hlast, hlt⟩

/-- Groups of positions are the classes of equal keys. -/
structure Classes (keys : List κ) (groups : List (List Nat)) : Prop where
  /-- Each position is in one group, and there once. -/
  partition : groups.flatten.Perm (List.range keys.length)
  nonempty : ∀ group ∈ groups, group ≠ []
  /-- Two positions share a group exactly if they have the same key. -/
  shared : ∀ i < keys.length, ∀ j < keys.length,
    (∃ group ∈ groups, i ∈ group ∧ j ∈ group) ↔ keys[i]? = keys[j]?
  increasing : ∀ group ∈ groups, group.Pairwise (· < ·)
  /-- Groups come in the order of their first positions. -/
  ordered : groups.Pairwise fun a b => ∃ i j, a.head? = some i ∧ b.head? = some j ∧ i < j

omit [BEq κ] [LawfulBEq κ] in
/-- What is in a group is a position. -/
theorem Classes.lt_length {keys : List κ} {groups : List (List Nat)} (h : Classes keys groups)
    {group : List Nat} (hgroup : group ∈ groups) {i : Nat} (hi : i ∈ group) : i < keys.length :=
  List.mem_range.mp (h.partition.mem_iff.mp (List.mem_flatten.mpr ⟨group, hgroup, hi⟩))

/-- Grouping the positions of some keys gives the classes of the keys. -/
theorem groupPositions_classes (keys : List κ) : Classes keys (groupPositions keys) where
  partition := groupPositions_flatten_perm keys
  nonempty := by
    rw [groupPositions_eq, List.forall_mem_map]
    intro key hkey hnil
    rcases exists_first keys key (List.mem_eraseDups.mp hkey) with ⟨i, _, hi⟩
    rw [hnil] at hi
    exact absurd hi (by simp only [List.head?_nil, reduceCtorEq, not_false_eq_true])
  shared := by
    intro i hi j hj
    rw [groupPositions_eq, List.getElem?_eq_getElem hi]
    simp only [List.mem_map, exists_exists_and_eq_and, mem_indicesOf, List.mem_eraseDups]
    constructor
    · rintro ⟨key, _, hki, hkj⟩
      rw [hkj, ← hki, List.getElem?_eq_getElem hi]
    · intro hsame
      exact ⟨keys[i], List.getElem_mem hi, List.getElem?_eq_getElem hi, hsame.symm⟩
  increasing := by
    rw [groupPositions_eq, List.forall_mem_map]
    exact fun key _ => indicesOf_increasing keys key
  ordered := by
    rw [groupPositions_eq, List.pairwise_map]
    exact pairwise_first_lt keys

end Keys

variable {α : Type} [Scalar α]

/-- Coordinates are refused exactly for their number, a spacing that is not
    positive and finite, or a coordinate that is not finite. -/
theorem fault?_eq_none_iff (xs ys : List α) (deltaX deltaY : α) :
    fault? xs ys deltaX deltaY = none ↔
      xs.length = ys.length ∧
      ((0.0 < deltaX ∧ Scalar.isFinite deltaX = true) ∧
        (0.0 < deltaY ∧ Scalar.isFinite deltaY = true)) ∧
      ∀ v ∈ xs ++ ys, Scalar.isFinite v = true := by
  unfold fault?
  split_ifs with hlen hspacing hfinite
  · rw [bne_iff_ne] at hlen
    simp only [hlen, false_and]
  · simp only [false_iff]
    intro h
    simp only [h.2.1.1.1, h.2.1.1.2, h.2.1.2.1, h.2.1.2.2, decide_true, Bool.and_self,
      Bool.not_true, Bool.or_self, Bool.false_eq_true] at hspacing
  · simp only [false_iff]
    intro h
    rw [List.all_eq_true.mpr h.2.2] at hfinite
    exact absurd hfinite (by simp only [Bool.not_true, Bool.false_eq_true, not_false_eq_true])
  · simp only [bne_iff_ne, ne_eq, not_not] at hlen
    simp only [Bool.or_eq_true, Bool.not_eq_true', not_or, Bool.not_eq_false, Bool.and_eq_true,
      decide_eq_true_eq] at hspacing hfinite
    simp only [true_iff]
    exact ⟨hlen, ⟨⟨hspacing.1.1.1, hspacing.1.2⟩, hspacing.1.1.2, hspacing.2⟩,
      List.all_eq_true.mp hfinite⟩

/-- Axes are laid out exactly if neither needs too many cells. -/
theorem axes_eq_ok_iff (xs ys : List α) (deltaX deltaY : α) (laid : Axis α × Axis α) :
    axes xs ys deltaX deltaY = .ok laid ↔
      (Axis.cellsNeeded xs deltaX ≤ Axis.maxCells ∧ Axis.cellsNeeded ys deltaY ≤ Axis.maxCells) ∧
        laid = (Axis.across xs deltaX, Axis.across ys deltaY) := by
  unfold axes Axis.spanning
  split_ifs with hx hy
  · simp only [hx, hy, and_self, true_and, Except.ok.injEq, eq_comm]
  · simp only [hy, and_false, false_and]
  · simp only [hx, false_and]

/-- Points are binned exactly if nothing is wrong with their coordinates and the axes can be
    laid out. They are then grouped by their cells. -/
theorem cells_eq_ok_iff (xs ys : List α) (hne : xs ≠ []) (deltaX deltaY : α)
    (groups : List (List Nat)) :
    cells xs ys deltaX deltaY = .ok groups ↔
      fault? xs ys deltaX deltaY = none ∧
      (Axis.cellsNeeded xs deltaX ≤ Axis.maxCells ∧ Axis.cellsNeeded ys deltaY ≤ Axis.maxCells) ∧
      groups = groupPositions (keys (Axis.across xs deltaX, Axis.across ys deltaY) xs ys) := by
  have hsome : xs.isEmpty = false := List.isEmpty_eq_false_iff.mpr hne
  have haxes := axes_eq_ok_iff xs ys deltaX deltaY
  rw [cells]
  cases hfault : fault? xs ys deltaX deltaY with
  | some fault => simp only [reduceCtorEq, false_and]
  | none =>
      simp only [hsome, Bool.false_eq_true, if_false, true_and]
      cases hlaid : axes xs ys deltaX deltaY with
      | error fault =>
          simp only [hlaid, reduceCtorEq, false_iff] at haxes ⊢
          exact fun h => haxes _ ⟨h.1, rfl⟩
      | ok laid =>
          rcases (haxes laid).mp hlaid with ⟨hcounted, rfl⟩
          simp only [hcounted, and_self, true_and, Except.ok.injEq, eq_comm]

/-- Without points there are no groups, which is what grouping no cells gives. -/
theorem cells_ok (xs ys : List α) (deltaX deltaY : α) (groups : List (List Nat))
    (h : cells xs ys deltaX deltaY = .ok groups) :
    fault? xs ys deltaX deltaY = none ∧
      groups = groupPositions (keys (Axis.across xs deltaX, Axis.across ys deltaY) xs ys) := by
  by_cases hne : xs = []
  · subst hne
    rw [cells] at h
    cases hfault : fault? [] ys deltaX deltaY with
    | some fault =>
        rw [hfault] at h
        exact absurd h (by simp only [reduceCtorEq, not_false_eq_true])
    | none =>
        rw [hfault] at h
        exact ⟨rfl, (Except.ok.inj h).symm⟩
  · rcases (cells_eq_ok_iff xs ys hne deltaX deltaY groups).mp h with ⟨hfault, _, hgroups⟩
    exact ⟨hfault, hgroups⟩

/-- Each point has a key. -/
theorem keys_length (laid : Axis α × Axis α) (xs ys : List α) (h : xs.length = ys.length) :
    (keys laid xs ys).length = xs.length := by
  rw [keys, List.length_map, List.length_zip, ← h, Nat.min_self]

end Binning

namespace Axis

variable {α : Type} [Scalar α]

/-- The cells of an axis can be counted: there is one at least, they are no more than
    `maxCells` says, and they hold all coordinates. -/
structure Counted (axis : Axis α) : Prop where
  one_le : 1 ≤ axis.cells
  le_max : axis.cells ≤ 10 ^ 15
  cellIndex_lt : ∀ value, axis.cellIndex value < axis.cells

/-- No cell index passes the last cell. -/
theorem cellIndex_lt (axis : Axis α) (h : 1 ≤ axis.cells) (value : α) :
    axis.cellIndex value < axis.cells := by
  unfold cellIndex
  split_ifs with hwidth
  · exact h
  · exact Nat.lt_of_le_of_lt (Nat.min_le_right _ _) (Nat.sub_lt h Nat.zero_lt_one)

end Axis

end Seismicity
