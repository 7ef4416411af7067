import Seismicity.Proofs.Gridding.Grouped
import Seismicity.Proofs.Gridding.Layout

/-!
# Passes over Many Groups

Gridding several batches is gridding each of them by itself: the passes do not
see each other, and joining their results only sorts them by group.

A pass over one batch that succeeds returns at most one group, so its result is
written down by `entryOf` from the list it produces. The whole pass collects
these entries. For batches that were split by group there is one entry for each
group, in ascending order already, and collecting changes nothing; that is why
the list of a group depends on the sources of that group, on the spacing and on
the rank of the group alone.

## Main definitions

* `Gridding.produced`: The list that a pass over one batch produces.
* `Gridding.groups`: The distinct groups of sources, in ascending order.
* `Gridding.ofGroup`: The sources of one group, in their order.

## Theorems

* `gridSources_ok_entry`: A pass that succeeds returns the group of its batch.
* `passes_ok`, `passes_eq_ok_iff`, `passes_error`: The passes one by one.
* `gridGroups_ok`: Joining the results collects their entries.
* `splitByGroup_eq`: Splitting by group.
* `gridGroups_splitByGroup_eq`: The result for batches split by group.
* `gridGroups_independent`: Passes over many groups are passes over each.
-/

namespace Seismicity

namespace Gridding

variable {α : Type} [Scalar α]

/-- The list that a pass over one batch produces; none if the pass fails. -/
def produced (spacing : Option α) (batch : List (Source α)) (task : Nat) : List (Source α) :=
  match gridSources batch spacing task with
  | .ok grouped => grouped.toList
  | .error _ => []

/-- What a numbered batch enters into the result: its list under its group. -/
def entryOf (spacing : Option α) (entry : List (Source α) × Nat) : Grouped (Source α) :=
  entry.1.head?.toList.map fun first => (first.group, produced spacing entry.1 entry.2)

/-- A pass that succeeds returns the list that it produces, under the group of
    its batch. -/
theorem gridSources_ok_single (batch : List (Source α)) (g : Nat) (hne : batch ≠ [])
    (hgroup : ∀ s ∈ batch, s.group = g) (spacing : Option α) (task : Nat)
    (grouped : Grouped (Source α)) (h : gridSources batch spacing task = .ok grouped) :
    grouped = [(g, produced spacing batch task)] := by
  rcases gridSources_ok batch g hne hgroup spacing task grouped h with ⟨out, hout, _⟩
  have hproduced : produced spacing batch task = out := by
    simp only [produced, h, hout, Grouped.toList, List.flatMap_cons, List.flatMap_nil,
      List.append_nil]
  rw [hproduced, hout]

theorem gridSources_ok_entry (batch : List (Source α)) (spacing : Option α) (task : Nat)
    (grouped : Grouped (Source α)) (h : gridSources batch spacing task = .ok grouped) :
    grouped = entryOf spacing (batch, task) := by
  cases batch with
  | nil =>
      -- A batch without sources has no group and enters nothing.
      exact (Except.ok.inj h).symm
  | cons first rest =>
      exact gridSources_ok_single _ first.group (List.cons_ne_nil first rest)
        (group_eq_of_gridSources_ok first rest spacing task grouped h) spacing task grouped h

/-- Passes that all succeed return the entries of their batches. -/
theorem passes_ok (spacing : Option α) (batches : List (List (Source α))) :
    ∀ (task : Nat) (results : List (Grouped (Source α))),
    passes spacing task batches = .ok results →
    results = (batches.zipIdx task).map (entryOf spacing) := by
  induction batches with
  | nil =>
      intro task results h
      exact (Except.ok.inj h).symm
  | cons batch rest ih =>
      intro task results h
      rw [passes] at h
      cases hbatch : gridSources batch spacing task with
      | error failure =>
          rw [hbatch] at h
          exact absurd h (by simp only [reduceCtorEq, not_false_eq_true])
      | ok grouped =>
          rw [hbatch] at h
          cases hrest : passes spacing (task + 1) rest with
          | error failure =>
              rw [hrest] at h
              exact absurd h (by simp only [reduceCtorEq, not_false_eq_true])
          | ok more =>
              rw [hrest, Except.ok.injEq] at h
              rw [← h, List.zipIdx_cons, List.map_cons, ← ih (task + 1) more hrest,
                ← gridSources_ok_entry batch spacing task grouped hbatch]

/-- Passes succeed exactly if each of them does. -/
theorem passes_eq_ok_iff (spacing : Option α) (batches : List (List (Source α))) : ∀ (task : Nat),
    (∃ results, passes spacing task batches = .ok results) ↔
      ∀ entry ∈ batches.zipIdx task, ∃ grouped, gridSources entry.1 spacing entry.2 = .ok grouped
    := by
  induction batches with
  | nil =>
      intro task
      exact ⟨fun _ entry hmem => absurd hmem List.not_mem_nil, fun _ => ⟨[], rfl⟩⟩
  | cons batch rest ih =>
      intro task
      rw [List.zipIdx_cons, List.forall_mem_cons, ← ih (task + 1), passes]
      cases gridSources batch spacing task with
      | error failure => simp only [reduceCtorEq, exists_false, false_and]
      | ok grouped =>
          cases passes spacing (task + 1) rest with
          | error failure => simp only [reduceCtorEq, exists_false, and_false]
          | ok more => exact ⟨fun _ => ⟨⟨grouped, rfl⟩, ⟨more, rfl⟩⟩, fun _ => ⟨_, rfl⟩⟩

/-- If passes fail, they do with the failure of one of them. -/
theorem passes_error (spacing : Option α) (failure : Failure α)
    (batches : List (List (Source α))) : ∀ (task : Nat),
    passes spacing task batches = .error failure →
    ∃ entry ∈ batches.zipIdx task, gridSources entry.1 spacing entry.2 = .error failure := by
  induction batches with
  | nil =>
      intro task h
      exact absurd h (by simp only [passes, reduceCtorEq, not_false_eq_true])
  | cons batch rest ih =>
      intro task h
      rw [passes] at h
      rw [List.zipIdx_cons]
      cases hbatch : gridSources batch spacing task with
      | error found =>
          rw [hbatch, Except.error.injEq] at h
          exact ⟨(batch, task), List.mem_cons_self, h ▸ hbatch⟩
      | ok grouped =>
          rw [hbatch] at h
          cases hrest : passes spacing (task + 1) rest with
          | error found =>
              rw [hrest, Except.error.injEq] at h
              rcases ih (task + 1) (h ▸ hrest) with ⟨entry, hmem, hentry⟩
              exact ⟨entry, List.mem_cons_of_mem _ hmem, hentry⟩
          | ok more =>
              rw [hrest] at h
              exact absurd h (by simp only [reduceCtorEq, not_false_eq_true])

/-- The entries of numbered batches. -/
def entries (spacing : Option α) (batches : List (List (Source α))) :
    List (Nat × List (Source α)) :=
  batches.zipIdx.flatMap (entryOf spacing)

/-- A pass over several batches that succeeds collects their entries. -/
theorem gridGroups_ok (spacing : Option α) (batches : List (List (Source α)))
    (m : Grouped (Source α)) (h : gridGroups batches spacing = .ok m) :
    m = Grouped.collect (entries spacing batches) := by
  rw [gridGroups] at h
  cases hpasses : passes spacing 0 batches with
  | error failure =>
      rw [hpasses] at h
      exact absurd h (by simp only [reduceCtorEq, not_false_eq_true])
  | ok results =>
      rw [hpasses, Except.ok.injEq] at h
      rw [← h, passes_ok spacing batches 0 results hpasses]
      rfl

theorem gridGroups_eq_ok_iff (spacing : Option α) (batches : List (List (Source α))) :
    (∃ m, gridGroups batches spacing = .ok m) ↔
      ∀ entry ∈ batches.zipIdx, ∃ grouped, gridSources entry.1 spacing entry.2 = .ok grouped := by
  rw [← passes_eq_ok_iff, gridGroups]
  cases passes spacing 0 batches with
  | error failure => simp only [reduceCtorEq, exists_false]
  | ok results => exact ⟨fun _ => ⟨results, rfl⟩, fun _ => ⟨_, rfl⟩⟩

theorem gridGroups_error (spacing : Option α) (batches : List (List (Source α)))
    (failure : Failure α) (h : gridGroups batches spacing = .error failure) :
    ∃ entry ∈ batches.zipIdx, gridSources entry.1 spacing entry.2 = .error failure := by
  rw [gridGroups] at h
  cases hpasses : passes spacing 0 batches with
  | error found =>
      rw [hpasses, Except.error.injEq] at h
      exact passes_error spacing failure batches 0 (h ▸ hpasses)
  | ok results =>
      rw [hpasses] at h
      exact absurd h (by simp only [reduceCtorEq, not_false_eq_true])

/-- The groups of the entries are those of the batches. -/
theorem mem_keys_entries (spacing : Option α) (batches : List (List (Source α))) (g : Nat) :
    g ∈ (entries spacing batches).map Prod.fst ↔
      ∃ batch ∈ batches, batch.head?.map Source.group = some g := by
  rw [entries, List.map_flatMap, List.mem_flatMap]
  constructor
  · rintro ⟨entry, hentry, hg⟩
    refine ⟨entry.1, List.mem_of_getElem? (List.mem_zipIdx_iff_getElem?.mp hentry), ?_⟩
    rw [entryOf, List.map_map, List.mem_map] at hg
    rcases hg with ⟨first, hfirst, heq⟩
    rw [Option.mem_toList] at hfirst
    rw [hfirst, Option.map_some, ← heq]
    rfl
  · rintro ⟨batch, hbatch, hg⟩
    rcases List.mem_iff_getElem?.mp hbatch with ⟨i, hi⟩
    refine ⟨(batch, i), List.mem_zipIdx_iff_getElem?.mpr hi, ?_⟩
    rcases Option.map_eq_some_iff.mp hg with ⟨first, hfirst, heq⟩
    rw [entryOf, List.map_map, List.mem_map]
    exact ⟨first, Option.mem_toList.mpr hfirst, heq⟩

/-- What is entered under a group are the lists of its batches, in order. -/
theorem share_entries (spacing : Option α) (g : Nat) (numbered : List (List (Source α) × Nat)) :
    Grouped.share g (numbered.flatMap (entryOf spacing)) =
      (numbered.filter fun entry => entry.1.head?.map Source.group == some g).flatMap
        fun entry => produced spacing entry.1 entry.2 := by
  -- Both sides keep a batch exactly if its first source has the group.
  induction numbered with
  | nil => rfl
  | cons entry rest ih =>
      rw [List.flatMap_cons, Grouped.share, List.filter_append, List.flatMap_append,
        List.filter_cons]
      change Grouped.share g (entryOf spacing entry) ++ Grouped.share g _ = _
      rw [ih]
      cases hhead : entry.1.head? with
      | none =>
          rw [entryOf, hhead]
          rfl
      | some first =>
          rw [entryOf, hhead, Option.map_some]
          by_cases hg : first.group = g
          · simp only [Option.toList_some, List.map_cons, List.map_nil, Grouped.share,
              List.filter_cons, hg, beq_self_eq_true, if_true, List.filter_nil, List.flatMap_cons,
              List.flatMap_nil, List.append_nil]
          · have hne : (first.group == g) = false := beq_eq_false_iff_ne.mpr hg
            have hne' : (some first.group == some g) = false :=
              beq_eq_false_iff_ne.mpr fun heq => hg (Option.some.inj heq)
            simp only [Option.toList_some, List.map_cons, List.map_nil, Grouped.share,
              List.filter_cons, hne, hne', Bool.false_eq_true, if_false, List.filter_nil,
              List.flatMap_nil, List.nil_append]

/-- The groups of a result are those of the batches. -/
theorem mem_keys_gridGroups (spacing : Option α) (batches : List (List (Source α)))
    (m : Grouped (Source α)) (h : gridGroups batches spacing = .ok m) (g : Nat) :
    g ∈ m.map Prod.fst ↔ ∃ batch ∈ batches, batch.head?.map Source.group = some g := by
  rw [gridGroups_ok spacing batches m h, Grouped.mem_keys_collect, mem_keys_entries]

/-- Under a group stand the lists that its batches produce, in order. -/
theorem lookup_gridGroups (spacing : Option α) (batches : List (List (Source α)))
    (m : Grouped (Source α)) (h : gridGroups batches spacing = .ok m) (g : Nat)
    (hg : g ∈ m.map Prod.fst) :
    m.lookup g = some
      ((batches.zipIdx.filter fun e => e.1.head?.map Source.group == some g).flatMap
        fun e => produced spacing e.1 e.2) := by
  rw [gridGroups_ok spacing batches m h] at hg ⊢
  rw [Grouped.lookup_collect, if_pos ((Grouped.mem_keys_collect _ g).mp hg), entries, share_entries]

/-- The distinct groups of sources, in ascending order. -/
def groups (sources : List (Source α)) : List Nat :=
  Grouped.groupsOf (sources.map Source.group)

/-- The sources of one group, in their order. -/
def ofGroup (sources : List (Source α)) (g : Nat) : List (Source α) :=
  sources.filter fun s => s.group == g

omit [Scalar α] in
theorem mem_groups (sources : List (Source α)) (g : Nat) :
    g ∈ groups sources ↔ ∃ s ∈ sources, s.group = g := by
  rw [groups, Grouped.mem_groupsOf, List.mem_map]

omit [Scalar α] in
theorem groups_ascending (sources : List (Source α)) : (groups sources).Pairwise (· < ·) :=
  Grouped.groupsOf_ascending _

omit [Scalar α] in
theorem group_of_mem_ofGroup (sources : List (Source α)) (g : Nat) (s : Source α)
    (h : s ∈ ofGroup sources g) : s.group = g :=
  eq_of_beq (List.mem_filter.mp h).2

omit [Scalar α] in
theorem ofGroup_ne_nil (sources : List (Source α)) (g : Nat) (h : g ∈ groups sources) :
    ofGroup sources g ≠ [] := by
  rcases (mem_groups sources g).mp h with ⟨s, hs, hg⟩
  exact List.ne_nil_of_mem (List.mem_filter.mpr ⟨hs, beq_iff_eq.mpr hg⟩)

omit [Scalar α] in
/-- The groups share the sources among them. -/
theorem ofGroup_perm (sources : List (Source α)) :
    ((groups sources).flatMap (ofGroup sources)).Perm sources :=
  Binning.flatMap_filter_perm sources Source.group _
    ((groups_ascending sources).imp Nat.ne_of_lt)
    fun s hs => (mem_groups sources s.group).mpr ⟨s, hs, rfl⟩

omit [Scalar α] in
/-- Splitting by group gives the sources of each group, in ascending order of
    the groups. -/
theorem splitByGroup_eq (sources : List (Source α)) :
    splitByGroup sources = (groups sources).map (ofGroup sources) := by
  -- The loop collects one entry for each source.
  have hcollect : splitByGroup sources
      = (Grouped.collect (sources.map fun s => (s.group, [s]))).map Prod.snd := by
    rw [Grouped.collect, List.foldl_map]
    rfl
  rw [hcollect, Grouped.collect_eq, List.map_map, List.map_map]
  refine List.map_congr_left fun g _ => ?_
  change Grouped.share g (sources.map fun s => (s.group, [s])) = ofGroup sources g
  rw [Grouped.share, List.filter_map, List.flatMap_map]
  exact List.flatMap_singleton' _

omit [Scalar α] in
theorem exists_group_of_mem_splitByGroup (sources batch : List (Source α))
    (h : batch ∈ splitByGroup sources) : ∃ g, batch ≠ [] ∧ ∀ s ∈ batch, s.group = g := by
  rw [splitByGroup_eq, List.mem_map] at h
  rcases h with ⟨g, hg, heq⟩
  rw [← heq]
  exact ⟨g, ofGroup_ne_nil sources g hg, group_of_mem_ofGroup sources g⟩

/-- The entries of batches split by group are the lists that the groups produce,
    each numbered by the rank of its group. -/
theorem entries_splitByGroup (spacing : Option α) (sources : List (Source α)) :
    entries spacing (splitByGroup sources) =
      (groups sources).zipIdx.map fun e =>
        (e.1, produced spacing (ofGroup sources e.1) e.2) := by
  rw [entries, splitByGroup_eq, List.zipIdx_map, List.flatMap_map, List.map_eq_flatMap]
  refine List.flatMap_congr fun e he => ?_
  have hg : e.1 ∈ groups sources := List.mem_of_getElem? (List.mem_zipIdx_iff_getElem?.mp he)
  change entryOf spacing (ofGroup sources e.1, e.2) = _
  rw [entryOf]
  cases hbatch : ofGroup sources e.1 with
  | nil => exact absurd hbatch (ofGroup_ne_nil sources e.1 hg)
  | cons first rest =>
      have hfirst : first.group = e.1 :=
        group_of_mem_ofGroup sources e.1 first (hbatch ▸ List.mem_cons_self)
      simp only [List.head?_cons, Option.toList_some, List.map_cons, List.map_nil, hfirst]

/-- The result for batches split by group: the groups ascend in them, so joining
    leaves the entries as they are. -/
theorem gridGroups_splitByGroup_eq (spacing : Option α) (sources : List (Source α))
    (m : Grouped (Source α)) (h : gridGroups (splitByGroup sources) spacing = .ok m) :
    m = (groups sources).zipIdx.map fun e =>
      (e.1, produced spacing (ofGroup sources e.1) e.2) := by
  rw [gridGroups_ok spacing _ m h, entries_splitByGroup, Grouped.collect_of_sorted]
  rw [Grouped.Sorted, List.map_map]
  change ((groups sources).zipIdx.map Prod.fst).Pairwise (· < ·)
  rw [List.zipIdx_map_fst]
  exact groups_ascending sources

/-- If the passes over batches split by group succeed, each of them returns its
    group and what it produces. -/
theorem gridSources_ofGroup_ok (spacing : Option α) (sources : List (Source α))
    (m : Grouped (Source α)) (h : gridGroups (splitByGroup sources) spacing = .ok m)
    (r g : Nat) (hr : (groups sources)[r]? = some g) :
    gridSources (ofGroup sources g) spacing r
      = .ok [(g, produced spacing (ofGroup sources g) r)] := by
  have hg : g ∈ groups sources := List.mem_of_getElem? hr
  have hbatch : (ofGroup sources g, r) ∈ (splitByGroup sources).zipIdx := by
    rw [List.mem_zipIdx_iff_getElem?, splitByGroup_eq, List.getElem?_map, hr, Option.map_some]
  rcases (gridGroups_eq_ok_iff spacing _).mp ⟨m, h⟩ _ hbatch with ⟨grouped, hgrouped⟩
  have hsingle := gridSources_ok_single (ofGroup sources g) g (ofGroup_ne_nil sources g hg)
    (group_of_mem_ofGroup sources g) spacing r grouped hgrouped
  rw [← hsingle]
  exact hgrouped

/-- The list of a group is what the pass over the sources of the group returns. -/
theorem lookup_gridGroups_splitByGroup (spacing : Option α) (sources : List (Source α))
    (m : Grouped (Source α)) (h : gridGroups (splitByGroup sources) spacing = .ok m)
    (r g : Nat) (hr : (groups sources)[r]? = some g) :
    ∃ out, gridSources (ofGroup sources g) spacing r = .ok [(g, out)] ∧ m.lookup g = some out := by
  refine ⟨_, gridSources_ofGroup_ok spacing sources m h r g hr, ?_⟩
  -- The result is known entry by entry, and its groups ascend, so the look-up
  -- finds this one.
  have hentry : (g, produced spacing (ofGroup sources g) r) ∈ m := by
    rw [gridGroups_splitByGroup_eq spacing sources m h]
    exact List.mem_map.mpr ⟨(g, r), List.mem_zipIdx_iff_getElem?.mpr hr, rfl⟩
  refine Grouped.lookup_of_mem m ?_ g _ hentry
  rw [gridGroups_ok spacing _ m h]
  exact Grouped.collect_sorted _

/-- Batches that were split off are not reported as mixed. -/
theorem gridGroups_splitByGroup_ne_mixed (spacing : Option α) (sources : List (Source α))
    (expected found : Nat) :
    gridGroups (splitByGroup sources) spacing ≠ .error (.mixedGroups expected found) := by
  intro h
  rcases gridGroups_error spacing _ _ h with ⟨entry, hentry, hmixed⟩
  have hbatch : entry.1 ∈ splitByGroup sources :=
    List.mem_of_getElem? (List.mem_zipIdx_iff_getElem?.mp hentry)
  rcases exists_group_of_mem_splitByGroup sources entry.1 hbatch with ⟨g, hne, hgroup⟩
  exact gridSources_ne_mixed entry.1 g hne hgroup spacing entry.2 expected found hmixed

/-- Passes over many groups are passes over each of them.

    A pass over several batches succeeds exactly if the pass over each of them
    does, the position of a batch being its task number. Each group then stands
    once in the result, in ascending order, with the lists that its batches
    produce joined in their order.

    Splitting by group makes one batch of each group. The batches are not
    reported as mixed, the groups of the result are those of the sources, and
    the list of a group is what the pass over the sources of that group alone
    returns, numbered by the rank of the group. -/
theorem gridGroups_independent :
    (∀ (batches : List (List (Source α))) (spacing : Option α),
      ((∃ m, gridGroups batches spacing = .ok m) ↔
        ∀ i batch, batches[i]? = some batch →
          ∃ grouped, gridSources batch spacing i = .ok grouped) ∧
      ∀ m, gridGroups batches spacing = .ok m →
        m.Sorted ∧
        (∀ g, g ∈ m.map Prod.fst ↔ ∃ batch ∈ batches, batch.head?.map Source.group = some g) ∧
        ∀ g ∈ m.map Prod.fst, m.lookup g =
          some ((batches.zipIdx.filter fun e => e.1.head?.map Source.group == some g).flatMap
            fun e => produced spacing e.1 e.2)) ∧
    ∀ (sources : List (Source α)) (spacing : Option α),
      (groups sources).Pairwise (· < ·) ∧
      (∀ g, g ∈ groups sources ↔ ∃ s ∈ sources, s.group = g) ∧
      splitByGroup sources = (groups sources).map (ofGroup sources) ∧
      (∀ batch ∈ splitByGroup sources, ∀ task expected found,
        gridSources batch spacing task ≠ .error (.mixedGroups expected found)) ∧
      (∀ expected found,
        gridGroups (splitByGroup sources) spacing ≠ .error (.mixedGroups expected found)) ∧
      ∀ m, gridGroups (splitByGroup sources) spacing = .ok m →
        m.map Prod.fst = groups sources ∧
        ∀ r g, (groups sources)[r]? = some g →
          ∃ out, gridSources (ofGroup sources g) spacing r = .ok [(g, out)] ∧
            m.lookup g = some out := by
  refine ⟨fun batches spacing => ⟨?_, fun m h => ⟨?_, ?_, ?_⟩⟩,
    fun sources spacing => ⟨groups_ascending sources, mem_groups sources, splitByGroup_eq sources,
      ?_, gridGroups_splitByGroup_ne_mixed spacing sources, fun m h => ⟨?_, ?_⟩⟩⟩
  · rw [gridGroups_eq_ok_iff]
    constructor
    · intro h i batch hbatch
      exact h (batch, i) (List.mem_zipIdx_iff_getElem?.mpr hbatch)
    · intro h entry hentry
      exact h entry.2 entry.1 (List.mem_zipIdx_iff_getElem?.mp hentry)
  · rw [gridGroups_ok spacing batches m h]
    exact Grouped.collect_sorted _
  · exact mem_keys_gridGroups spacing batches m h
  · exact lookup_gridGroups spacing batches m h
  · intro batch hbatch task expected found
    rcases exists_group_of_mem_splitByGroup sources batch hbatch with ⟨g, hne, hgroup⟩
    exact gridSources_ne_mixed batch g hne hgroup spacing task expected found
  · rw [gridGroups_splitByGroup_eq spacing sources m h, List.map_map]
    exact List.zipIdx_map_fst 0 (groups sources)
  · exact lookup_gridGroups_splitByGroup spacing sources m h

end Gridding

end Seismicity
