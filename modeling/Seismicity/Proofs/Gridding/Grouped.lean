import Mathlib.Data.Finset.Sort
import Seismicity.Gridding

/-!
# Lists by Group

Appending to the lists of groups, one entry at a time, and what has been
collected in the end. Batching sources and joining the results of several passes
are both this loop, with entries of one source or of many.

The lists are kept in ascending order of their groups. `Sorted` says so, and
`append_sorted` that appending keeps it, so what is collected can be known by its
look-ups: `lookup_collect` finds under a group everything that was entered under
it, in the order of entry, and `collect_eq` writes the whole collection down.

## Main definitions

* `Grouped.Sorted`: The groups ascend.
* `Grouped.share`: What is entered under a group.
* `Grouped.collect`: Entries appended one after the other.
* `Grouped.groupsOf`: The distinct groups of entries, in ascending order.

## Theorems

* `mem_keys_append`, `append_sorted`, `lookup_append`: One entry.
* `append_of_above`: A group above all others goes to the end.
* `lookup_collect`, `collect_sorted`: All entries.
* `lookup_of_mem`: Each list is found under its group.
* `collect_eq`: The collection, group by group.
* `collect_of_sorted`: Entries in ascending order are their own collection.
-/

namespace Seismicity

namespace Grouped

variable {β : Type}

/-- The groups stand in ascending order. -/
def Sorted (m : Grouped β) : Prop := (m.map Prod.fst).Pairwise (· < ·)

theorem mem_keys_append (group g : Nat) (entries : List β) (m : Grouped β) :
    g ∈ (append group entries m).map Prod.fst ↔ g = group ∨ g ∈ m.map Prod.fst := by
  induction m with
  | nil => simp only [append, List.map_cons, List.map_nil, List.mem_singleton, List.not_mem_nil,
      or_false]
  | cons head rest ih =>
      rcases head with ⟨other, present⟩
      rw [append]
      split_ifs with hlt heq
      · simp only [List.map_cons, List.mem_cons]
      · subst heq
        simp only [List.map_cons, List.mem_cons, or_self_left]
      · rw [List.map_cons, List.mem_cons, ih, List.map_cons, List.mem_cons]
        exact or_left_comm

theorem append_sorted (group : Nat) (entries : List β) (m : Grouped β) (h : Sorted m) :
    Sorted (append group entries m) := by
  induction m with
  | nil => exact List.pairwise_singleton _ _
  | cons head rest ih =>
      rcases head with ⟨other, present⟩
      have hparts := List.pairwise_cons.mp h
      rw [append]
      split_ifs with hlt heq
      · refine List.pairwise_cons.mpr ⟨fun g hg => ?_, h⟩
        rcases List.mem_cons.mp hg with heq | hrest
        · exact heq ▸ hlt
        · exact hlt.trans (hparts.1 g hrest)
      · exact h
      · refine List.pairwise_cons.mpr ⟨fun g hg => ?_, ih hparts.2⟩
        rcases (mem_keys_append group g entries rest).mp hg with hnew | hrest
        · change other < g
          omega
        · exact hparts.1 g hrest

theorem lookup_append (group g : Nat) (entries : List β) (m : Grouped β) (h : Sorted m) :
    (append group entries m).lookup g =
      if g = group then some ((m.lookup g).getD [] ++ entries) else m.lookup g := by
  induction m with
  | nil =>
      rw [append, List.lookup_cons, List.lookup_nil]
      by_cases hg : g = group
      · rw [if_pos hg, hg, beq_self_eq_true]
        rfl
      · rw [if_neg hg, beq_eq_false_iff_ne.mpr hg]
  | cons head rest ih =>
      rcases head with ⟨other, present⟩
      have hparts := List.pairwise_cons.mp h
      rw [append]
      by_cases hlt : group < other
      · rw [if_pos hlt, List.lookup_cons]
        by_cases hg : g = group
        · -- A group below the first has no list yet.
          have hnone : ((other, present) :: rest).lookup g = none := by
            rw [List.lookup_eq_none_iff]
            intro p hp
            rw [bne_iff_ne]
            rcases List.mem_cons.mp hp with hfirst | hrest
            · rw [hfirst]
              change g ≠ other
              omega
            · have hbelow := hparts.1 p.1 (List.mem_map_of_mem hrest)
              change other < p.1 at hbelow
              omega
          rw [if_pos hg, hnone, hg, beq_self_eq_true]
          rfl
        · rw [if_neg hg, beq_eq_false_iff_ne.mpr hg]
      · by_cases heq : group = other
        · rw [if_neg hlt, if_pos heq, List.lookup_cons, List.lookup_cons]
          by_cases hg : g = group
          · rw [if_pos hg, hg, heq, beq_self_eq_true]
            rfl
          · have hne : g ≠ other := fun hgo => hg (hgo.trans heq.symm)
            rw [if_neg hg, beq_eq_false_iff_ne.mpr hne]
        · rw [if_neg hlt, if_neg heq, List.lookup_cons, List.lookup_cons, ih hparts.2]
          by_cases hg : g = group
          · have hne : g ≠ other := fun hgo => heq (hg.symm.trans hgo)
            rw [if_pos hg, beq_eq_false_iff_ne.mpr hne, if_pos hg]
          · rw [if_neg hg, if_neg hg]

/-- A group above all others goes to the end. -/
theorem append_of_above (group : Nat) (entries : List β) (m : Grouped β)
    (h : ∀ g ∈ m.map Prod.fst, g < group) : append group entries m = m ++ [(group, entries)] := by
  induction m with
  | nil => rfl
  | cons head rest ih =>
      rcases head with ⟨other, present⟩
      have hother : other < group := h other List.mem_cons_self
      rw [append, if_neg (by omega), if_neg (by omega),
        ih fun g hg => h g (List.mem_cons_of_mem _ hg), List.cons_append]

/-- What is entered under a group, in the order of entry. -/
def share (g : Nat) (pairs : List (Nat × List β)) : List β :=
  (pairs.filter fun p => p.1 == g).flatMap Prod.snd

/-- Entries appended one after the other. -/
def collect (pairs : List (Nat × List β)) : Grouped β :=
  pairs.foldl (fun m p => append p.1 p.2 m) []

theorem collect_concat (pairs : List (Nat × List β)) (p : Nat × List β) :
    collect (pairs ++ [p]) = append p.1 p.2 (collect pairs) := by
  rw [collect, List.foldl_append, List.foldl_cons, List.foldl_nil]
  rfl

theorem collect_sorted (pairs : List (Nat × List β)) : Sorted (collect pairs) := by
  induction pairs using List.reverseRecOn with
  | nil => exact List.Pairwise.nil
  | append_singleton rest p ih =>
      rw [collect_concat]
      exact append_sorted p.1 p.2 _ ih

theorem mem_keys_collect (pairs : List (Nat × List β)) (g : Nat) :
    g ∈ (collect pairs).map Prod.fst ↔ g ∈ pairs.map Prod.fst := by
  induction pairs using List.reverseRecOn with
  | nil => exact Iff.rfl
  | append_singleton rest p ih =>
      rw [collect_concat, mem_keys_append, ih, List.map_append, List.map_cons, List.map_nil,
        List.mem_append, List.mem_singleton]
      exact or_comm

/-- Under a group stands what was entered under it, and nothing if nothing
    was. -/
theorem lookup_collect (pairs : List (Nat × List β)) (g : Nat) :
    (collect pairs).lookup g =
      if g ∈ pairs.map Prod.fst then some (share g pairs) else none := by
  induction pairs using List.reverseRecOn with
  | nil => rfl
  | append_singleton rest p ih =>
      rw [collect_concat, lookup_append _ _ _ _ (collect_sorted rest), ih]
      simp only [List.map_append, List.map_cons, List.map_nil, List.mem_append,
        List.mem_singleton, share, List.filter_append, List.filter_cons, List.filter_nil,
        List.flatMap_append]
      by_cases hg : g = p.1
      · subst hg
        simp only [if_true, or_true, beq_self_eq_true, List.flatMap_cons, List.flatMap_nil,
          List.append_nil, Option.some.injEq]
        by_cases hmem : p.1 ∈ rest.map Prod.fst
        · rw [if_pos hmem]
          rfl
        · -- A new group has nothing entered under it so far.
          have hnil : rest.filter (fun q => q.1 == p.1) = [] := by
            rw [List.filter_eq_nil_iff]
            intro q hq hkey
            exact hmem (eq_of_beq hkey ▸ List.mem_map_of_mem hq)
          rw [if_neg hmem, hnil]
          rfl
      · have hne : (p.1 == g) = false := beq_eq_false_iff_ne.mpr (Ne.symm hg)
        simp only [hg, or_false, hne, Bool.false_eq_true, if_false, List.flatMap_nil,
          List.append_nil]

/-- The distinct groups of entries, in ascending order. -/
def groupsOf (groups : List Nat) : List Nat := groups.toFinset.sort

theorem mem_groupsOf (groups : List Nat) (g : Nat) : g ∈ groupsOf groups ↔ g ∈ groups := by
  rw [groupsOf, Finset.mem_sort, List.mem_toFinset]

theorem groupsOf_ascending (groups : List Nat) : (groupsOf groups).Pairwise (· < ·) :=
  (Finset.sortedLT_sort groups.toFinset).pairwise

/-- Ascending lists with the same entries are equal. -/
theorem eq_of_ascending (xs ys : List Nat) (hx : xs.Pairwise (· < ·)) (hy : ys.Pairwise (· < ·))
    (h : ∀ n, n ∈ xs ↔ n ∈ ys) : xs = ys := by
  have hperm : xs.Perm ys :=
    (List.perm_ext_iff_of_nodup (hx.imp Nat.ne_of_lt) (hy.imp Nat.ne_of_lt)).mpr h
  exact hperm.eq_of_pairwise (fun a b _ _ hab hba => absurd hab (Nat.lt_asymm hba)) hx hy

/-- The groups of a collection are those of its entries. -/
theorem keys_collect (pairs : List (Nat × List β)) :
    (collect pairs).map Prod.fst = groupsOf (pairs.map Prod.fst) := by
  refine eq_of_ascending _ _ (collect_sorted pairs) (groupsOf_ascending _) fun g => ?_
  rw [mem_keys_collect, mem_groupsOf]

/-- Lists whose groups ascend are known by their groups and look-ups. -/
theorem eq_map_lookup (m : Grouped β) (h : Sorted m) :
    m = (m.map Prod.fst).map fun g => (g, (m.lookup g).getD []) := by
  induction m with
  | nil => rfl
  | cons head rest ih =>
      rcases head with ⟨group, present⟩
      have hparts := List.pairwise_cons.mp h
      rw [List.map_cons, List.map_cons, List.lookup_cons, beq_self_eq_true]
      refine congrArg₂ List.cons rfl ?_
      calc rest = (rest.map Prod.fst).map fun g => (g, (rest.lookup g).getD []) := ih hparts.2
        _ = _ := by
          refine List.map_congr_left fun g hg => ?_
          have hne : g ≠ group := fun heq => Nat.lt_irrefl g (heq ▸ hparts.1 g hg)
          rw [List.lookup_cons, beq_eq_false_iff_ne.mpr hne]

/-- In lists whose groups ascend, an entry is found under its group. -/
theorem lookup_of_mem (m : Grouped β) (h : Sorted m) (g : Nat) (present : List β)
    (hmem : (g, present) ∈ m) : m.lookup g = some present := by
  induction m with
  | nil => exact absurd hmem List.not_mem_nil
  | cons head rest ih =>
      rcases head with ⟨group, found⟩
      have hparts := List.pairwise_cons.mp h
      rw [List.lookup_cons]
      rcases List.mem_cons.mp hmem with heq | hrest
      · rw [Prod.mk.injEq] at heq
        rw [heq.1, heq.2, beq_self_eq_true]
      · -- The group stands further on, so it is above the first.
        have hlt : group < g := hparts.1 g (List.mem_map_of_mem (f := Prod.fst) hrest)
        rw [beq_eq_false_iff_ne.mpr (Nat.ne_of_gt hlt)]
        exact ih hparts.2 hrest

/-- What is collected: each group that was entered, in ascending order, with
    everything that was entered under it. -/
theorem collect_eq (pairs : List (Nat × List β)) :
    collect pairs = (groupsOf (pairs.map Prod.fst)).map fun g => (g, share g pairs) := by
  rw [eq_map_lookup _ (collect_sorted pairs), keys_collect]
  refine List.map_congr_left fun g hg => ?_
  rw [lookup_collect, if_pos ((mem_groupsOf _ g).mp hg)]
  rfl

/-- Entries whose groups ascend already are what is collected from them. -/
theorem collect_of_sorted (pairs : List (Nat × List β)) (h : Sorted pairs) :
    collect pairs = pairs := by
  induction pairs using List.reverseRecOn with
  | nil => rfl
  | append_singleton rest p ih =>
      rw [Sorted, List.map_append, List.map_cons, List.map_nil, List.pairwise_append] at h
      rw [collect_concat, ih h.1, append_of_above]
      exact fun g hg => h.2.2 g hg p.1 (List.mem_singleton.mpr rfl)

end Grouped

end Seismicity
