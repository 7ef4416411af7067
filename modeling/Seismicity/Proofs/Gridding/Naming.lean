import Mathlib.Data.List.Sigma
import Seismicity.Proofs.Gridding.Runs

/-!
# Names of Clusters

The clusters that one pass creates have names of their own, also across groups.

A cluster is named after the pass over its group and after its cell, with a hyphen
between the two numbers. A numeral holds no hyphen, so both numbers can be read
back from the name. Passes are numbered by the ranks of the groups, and within a
pass cells are counted, so no two clusters share both numbers.

That is said here of sources that are all point sources to begin with. A cluster
that was there before may well have a name that is given again.

## Theorems

* `clusterId_inj`: Names tell pass and cell.
* `ids_of_standsFor`, `ids_of_gridSources`: The names that one pass gives.
* `clusterIds_nodup`: No name is given twice.
-/

namespace Seismicity

namespace Gridding

theorem hyphen_notMem_toDigits (n : Nat) : '-' ∉ Nat.toDigits 10 n := by
  intro h
  have hdigit := Nat.isDigit_of_mem_toDigits (by decide) (by decide) h
  exact absurd hdigit (by decide)

theorem toDigits_injective : Function.Injective (Nat.toDigits 10) := by
  intro m n h
  calc
    m = Nat.ofDigitChars 10 (Nat.toDigits 10 m) 0 := Nat.ofDigitChars_ten_toDigits.symm
    _ = Nat.ofDigitChars 10 (Nat.toDigits 10 n) 0 := by rw [h]
    _ = n := Nat.ofDigitChars_ten_toDigits

theorem toList_clusterId (task cell : Nat) : (clusterId task cell).toList
    = "cps-".toList ++ (Nat.toDigits 10 task ++ '-' :: Nat.toDigits 10 cell) := by
  have hhyphen : "-".toList = ['-'] := by decide
  rw [clusterId, String.toList_append, String.toList_append, String.toList_append, hhyphen,
    Nat.toString_eq_repr, Nat.toString_eq_repr, Nat.toList_repr, Nat.toList_repr,
    List.append_assoc, List.append_assoc, List.singleton_append]

/-- The name of a cluster tells its pass and its cell. -/
theorem clusterId_inj (task cell task' cell' : Nat) :
    clusterId task cell = clusterId task' cell' ↔ task = task' ∧ cell = cell' := by
  rw [← String.toList_inj, toList_clusterId, toList_clusterId, List.append_cancel_left_eq,
    List.append_cons_inj_of_notMem (hyphen_notMem_toDigits task) (hyphen_notMem_toDigits cell),
    toDigits_injective.eq_iff, toDigits_injective.eq_iff]
  exact and_congr_right fun _ => and_iff_right rfl

variable {α : Type} [Scalar α]

omit [Scalar α] in
/-- What stands for cells and is no point source is named after the cells, in their
    order. -/
theorem ids_of_standsFor {ι : Type} (task : Nat) (membersAt : ι → List (PointSource α))
    (cells : List ι) : ∀ (cell : Nat) (entries : List (Source α)),
    List.Forall₂ (fun e s => StandsFor task e.2 (membersAt e.1) s) (cells.zipIdx cell) entries →
    ∃ numbers : List Nat, numbers.Pairwise (· < ·) ∧ (∀ n ∈ numbers, cell ≤ n) ∧
      (others entries).map Source.id = numbers.map (clusterId task) := by
  induction cells with
  | nil =>
      intro cell entries h
      cases h
      exact ⟨[], List.Pairwise.nil, fun n hn => absurd hn List.not_mem_nil, rfl⟩
  | cons first rest ih =>
      intro cell entries h
      rw [List.zipIdx_cons] at h
      cases h with
      | @cons _ s _ entries hstands hrest =>
          rcases ih (cell + 1) entries hrest with ⟨numbers, hsorted, hleast, hids⟩
          have hless : ∀ n ∈ numbers, cell < n := fun n hn => Nat.lt_of_succ_le (hleast n hn)
          cases s with
          | other o => exact absurd hstands not_false
          | point s => exact ⟨numbers, hsorted, fun n hn => (hless n hn).le, hids⟩
          | cluster c =>
              have hid : c.id = clusterId task cell := hstands.2.2
              refine ⟨cell :: numbers, List.pairwise_cons.mpr ⟨hless, hsorted⟩, ?_, ?_⟩
              · rw [List.forall_mem_cons]
                exact ⟨le_refl cell, fun n hn => (hless n hn).le⟩
              · rw [List.map_cons, ← hids, ← hid]
                rfl

/-- The pass over point sources of one group names what it creates after distinct
    cells. -/
theorem ids_of_gridSources (batch : List (Source α)) (g : Nat) (hne : batch ≠ [])
    (hgroup : ∀ s ∈ batch, s.group = g) (hothers : others batch = []) (spacing : Option α)
    (task : Nat) (out : List (Source α))
    (h : gridSources batch spacing task = .ok [(g, out)]) :
    ∃ numbers : List Nat, numbers.Nodup ∧
      (others out).map Source.id = numbers.map (clusterId task) := by
  rcases gridSources_cases batch g hne hgroup spacing task out h with
    ⟨_, hinput⟩ | ⟨km, _, ⟨_, hmoved⟩ | ⟨hmany, entries, hentries, hjoined⟩⟩
  · rw [hinput, hothers]
    exact ⟨[], List.nodup_nil, rfl⟩
  · rw [hmoved, hothers, List.nil_append, others_map_point]
    exact ⟨[], List.nodup_nil, rfl⟩
  · have hsome : points batch ≠ [] := List.length_pos_iff.mp (by omega)
    have hall := (gridPoints_ok km task _ hsome entries hentries).2
    rcases ids_of_standsFor task (membersOf km (points batch)) _ 0 entries
      (hall.imp fun _ _ hs => hs.1) with ⟨numbers, hsorted, _, hids⟩
    rw [hjoined, hothers, List.nil_append]
    exact ⟨numbers, hsorted.imp Nat.ne_of_lt, hids⟩

/-- The clusters that passes over point sources create have distinct names. -/
theorem clusterIds_nodup (sources : List (Source α)) (hothers : others sources = [])
    (spacing : Option α) (m : Grouped (Source α))
    (h : gridGroups (splitByGroup sources) spacing = .ok m) :
    ((others m.toList).map Source.id).Nodup := by
  -- The names that the pass of rank `r` over the group `g` gives.
  have hpasses : ∀ e ∈ (groups sources).zipIdx, ∃ numbers : List Nat, numbers.Nodup ∧
      (others (produced spacing (ofGroup sources e.1) e.2)).map Source.id
        = numbers.map (clusterId e.2) := by
    intro e he
    have hrank := List.mem_zipIdx_iff_getElem?.mp he
    refine ids_of_gridSources _ e.1 (ofGroup_ne_nil sources e.1 (List.mem_of_getElem? hrank))
      (group_of_mem_ofGroup sources e.1) ?_ spacing e.2 _
      (gridSources_ofGroup_ok spacing sources m h e.2 e.1 hrank)
    rw [ofGroup, others, List.filter_comm]
    rw [others] at hothers
    rw [hothers, List.filter_nil]
  have hjoined : (others m.toList).map Source.id = (groups sources).zipIdx.flatMap fun e =>
      (others (produced spacing (ofGroup sources e.1) e.2)).map Source.id := by
    rw [gridGroups_splitByGroup_eq spacing sources m h, Grouped.toList, List.flatMap_map, others,
      List.filter_flatMap, List.map_flatMap]
    rfl
  have hranks : (groups sources).zipIdx.Pairwise fun e e' => e.2 ≠ e'.2 := by
    rw [← List.pairwise_map (R := fun a b => a ≠ b) (f := Prod.snd)]
    exact List.nodup_zipIdx_map_snd _
  rw [hjoined, List.nodup_flatMap]
  constructor
  · intro e he
    rcases hpasses e he with ⟨numbers, hnodup, hids⟩
    rw [hids]
    exact hnodup.map fun n n' heq => ((clusterId_inj _ _ _ _).mp heq).2
  · -- Passes of different ranks have no name in common.
    refine hranks.imp_of_mem fun {e e'} he he' hne => ?_
    rcases hpasses e he with ⟨numbers, _, hids⟩
    rcases hpasses e' he' with ⟨numbers', _, hids'⟩
    rw [Function.onFun, hids, hids']
    intro name hname hname'
    rcases List.mem_map.mp hname with ⟨n, _, heq⟩
    rcases List.mem_map.mp hname' with ⟨n', _, heq'⟩
    exact hne ((clusterId_inj _ _ _ _).mp (heq.trans heq'.symm)).1

end Gridding

end Seismicity
