import Seismicity.Proofs.Exact.Extremes
import Seismicity.Proofs.Gridding.Failures
import Seismicity.Proofs.Gridding.Runs
import Seismicity.Proofs.Source.Order

/-!
# The Order of the Sources

In exact arithmetic the gridding pass does not depend on the order of the sources.

The grid is laid out from a mean and from extremes, so two orders of the sources
lead to one grid, and a point source lies in the same cell both times. From there
on a pass goes through the cells. That it succeeds was said of every two sources
in one cell (`homogeneous_iff`), where no order occurs. What it returns relates
entry by entry to the occupied cells, which come in another order the second time.
Brought into one order, the entries of the two passes stand for the same members
cell by cell: either there is one, and it is returned as it is, or there are
several, and the two clusters are alike.

## Main definitions

* `Gridding.Counterparts`: Two results of clustering the same sources.

## Theorems

* `cellOf_eq_of_perm`, `occupied_perm`, `membersOf_perm`: Both passes have the same
  cells.
* `griddable_of_perm`, `gridPoints_ok_of_perm`: Both passes succeed.
* `counterparts_of_standsFor`: What stands for the same cells.
* `gridSources_ok_of_perm`, `counterparts_of_gridSources`: The pass over one group.
* `gridSources_order`: The order of the sources does not matter.
-/

namespace Seismicity

namespace Axis

variable {xs ys : List ℝ}

theorem span_eq_of_perm (h : xs.Perm ys) : span xs = span ys := by
  rw [span, span, Exact.greatest_eq_of_perm h, Exact.least_eq_of_perm h]

theorem cellsNeeded_eq_of_perm (h : xs.Perm ys) (delta : ℝ) :
    cellsNeeded xs delta = cellsNeeded ys delta := by
  rw [cellsNeeded, cellsNeeded, span_eq_of_perm h]

theorem across_eq_of_perm (h : xs.Perm ys) (delta : ℝ) : across xs delta = across ys delta := by
  rw [across, across, span_eq_of_perm h, cellsNeeded_eq_of_perm h, Exact.least_eq_of_perm h]

end Axis

namespace Gridding

theorem ne_nil_of_perm {β : Type} {xs ys : List β} (h : xs.Perm ys) (hne : xs ≠ []) :
    ys ≠ [] := by
  intro hnil
  rw [hnil] at h
  exact hne h.eq_nil

theorem toList_single {β : Type} (g : Nat) (entries : List β) :
    Grouped.toList [(g, entries)] = entries :=
  List.flatMap_singleton _ _

section Cells

variable {pts pts' : List (PointSource ℝ)} (h : pts.Perm pts')

include h

theorem longitudes_perm : (longitudes pts).Perm (longitudes pts') := h.map _

theorem latitudes_perm : (latitudes pts).Perm (latitudes pts') := h.map _

theorem meanLatitude_eq_of_perm : meanLatitude pts = meanLatitude pts' := by
  rw [meanLatitude_eq, meanLatitude_eq, (latitudes_perm h).sum_eq, h.length_eq]

theorem deltaX_eq_of_perm (km : ℝ) : deltaX km pts = deltaX km pts' := by
  rw [deltaX, deltaX, meanLatitude_eq_of_perm h]

theorem columns_eq_of_perm (km : ℝ) : columns km pts = columns km pts' := by
  rw [columns, columns, deltaX_eq_of_perm h, Axis.across_eq_of_perm (longitudes_perm h)]

theorem rows_eq_of_perm (km : ℝ) : rows km pts = rows km pts' := by
  rw [rows, rows, Axis.across_eq_of_perm (latitudes_perm h)]

/-- A point source lies in the same cell, whatever the order. -/
theorem cellOf_eq_of_perm (km : ℝ) : cellOf km pts = cellOf km pts' := by
  funext s
  rw [cellOf, cellOf, columns_eq_of_perm h, rows_eq_of_perm h]

theorem membersOf_perm (km : ℝ) (cell : Nat × Nat) :
    (membersOf km pts cell).Perm (membersOf km pts' cell) := by
  rw [membersOf, membersOf, cellOf_eq_of_perm h]
  exact h.filter _

/-- The same cells are occupied; they may be found in another order. -/
theorem occupied_perm (km : ℝ) : (occupied km pts).Perm (occupied km pts') := by
  rw [List.perm_ext_iff_of_nodup (occupied_nodup km pts) (occupied_nodup km pts')]
  intro cell
  simp only [mem_occupied, cellOf_eq_of_perm h, h.mem_iff]

theorem griddable_of_perm (km : ℝ) (hgrid : Griddable km pts) : Griddable km pts' where
  spacingX := by
    rw [← meanLatitude_eq_of_perm h]
    exact hgrid.spacingX
  spacingY := hgrid.spacingY
  coordinates s hs := hgrid.coordinates s (h.mem_iff.mpr hs)
  columns := by
    rw [← meanLatitude_eq_of_perm h, ← Axis.cellsNeeded_eq_of_perm (longitudes_perm h)]
    exact hgrid.columns
  rows := by
    rw [← Axis.cellsNeeded_eq_of_perm (latitudes_perm h)]
    exact hgrid.rows

theorem homogeneous_of_perm (km : ℝ) (hhom : Homogeneous km pts) : Homogeneous km pts' := by
  intro p hp q hq hcell
  rw [← cellOf_eq_of_perm h] at hcell
  exact hhom p (h.mem_iff.mpr hp) q (h.mem_iff.mpr hq) hcell

/-- Gridding point sources succeeds in every order if it does in one. -/
theorem gridPoints_ok_of_perm (km : ℝ) (hne : pts ≠ []) (task task' : Nat)
    (hok : ∃ out, gridPoints km task pts = .ok out) :
    ∃ out, gridPoints km task' pts' = .ok out := by
  have hne' := ne_nil_of_perm h hne
  have hself : ∀ ps : List (PointSource ℝ), ∀ s ∈ ps, s.Agrees s :=
    fun _ s _ => s.agrees_refl
  rcases hok with ⟨out, hout⟩
  have hgrid := (gridPoints_ok km task pts hne out hout).1
  have huniform := (gridPoints_eq_ok_iff km task pts hne hgrid).mp ⟨out, hout⟩
  have hhom := homogeneous_of_perm h km ((homogeneous_iff km pts (hself pts)).mpr huniform)
  rw [gridPoints_eq_ok_iff km task' pts' hne' (griddable_of_perm h km hgrid),
    ← homogeneous_iff km pts' (hself pts')]
  exact hhom

end Cells

/-- Two results of clustering the same sources: some are kept, and the others are the
    members of clusters. The clusters of the two results are alike, one by one. -/
structure Counterparts (sources later later' kept : List (Source ℝ))
    (created created' : List (Cluster ℝ)) : Prop where
  later : later.Perm (kept ++ created.map .cluster)
  other : later'.Perm (kept ++ created'.map .cluster)
  sources : sources.Perm (kept ++ created.flatMap fun c => c.members.map .point)
  several : ∀ c ∈ created, 2 ≤ c.members.length
  alike : List.Forall₂ Cluster.SameUpToOrder created created'

namespace Counterparts

variable {xs xs' ys ys' ys'' kept kept' : List (Source ℝ)} {cs cs' ds ds' : List (Cluster ℝ)}

/-- Without any cluster, the sources are there in two orders. -/
theorem keep (h : ys.Perm xs) (h' : ys'.Perm xs) : Counterparts xs ys ys' xs [] [] where
  later := by
    rw [List.map_nil, List.append_nil]
    exact h
  other := by
    rw [List.map_nil, List.append_nil]
    exact h'
  sources := by rw [List.flatMap_nil, List.append_nil]
  several _ hc := absurd hc List.not_mem_nil
  alike := .nil

/-- Clusters of the same members stand side by side. -/
theorem single (c d : Cluster ℝ) (hseveral : 2 ≤ c.members.length) (h : c.SameUpToOrder d) :
    Counterparts (c.members.map .point) [.cluster c] [.cluster d] [] [c] [d] where
  later := List.Perm.refl _
  other := List.Perm.refl _
  sources := by rw [List.flatMap_singleton, List.nil_append]
  several := by
    rw [List.forall_mem_singleton]
    exact hseveral
  alike := .cons h .nil

theorem append (h : Counterparts xs ys ys' kept cs ds)
    (h' : Counterparts xs' ys'' zs kept' cs' ds') :
    Counterparts (xs ++ xs') (ys ++ ys'') (ys' ++ zs) (kept ++ kept') (cs ++ cs') (ds ++ ds') where
  later := by
    rw [List.map_append]
    exact (h.later.append h'.later).trans (perm_append_append_swap _ _ _ _)
  other := by
    rw [List.map_append]
    exact (h.other.append h'.other).trans (perm_append_append_swap _ _ _ _)
  sources := by
    rw [List.flatMap_append]
    exact (h.sources.append h'.sources).trans (perm_append_append_swap _ _ _ _)
  several := List.forall_mem_append.mpr ⟨h.several, h'.several⟩
  alike := List.rel_append h.alike h'.alike

/-- The three lists may be in any order. -/
theorem perm (h : Counterparts xs ys ys' kept cs ds) (hx : xs'.Perm xs) (hy : ys''.Perm ys)
    (hz : zs.Perm ys') : Counterparts xs' ys'' zs kept cs ds :=
  ⟨hy.trans h.later, hz.trans h.other, hx.trans h.sources, h.several, h.alike⟩

end Counterparts

/-- What stands for members, wherever their cell comes. -/
def Represents (members : List (PointSource ℝ)) (s : Source ℝ) : Prop :=
  (∃ task cell, StandsFor task cell members s) ∧ ∀ c, s = .cluster c → c.Formed

/-- Gridding point sources leaves one source for each occupied cell. -/
theorem represents_of_gridPoints (km : ℝ) (task : Nat) (pts : List (PointSource ℝ))
    (hne : pts ≠ []) (out : List (Source ℝ)) (h : gridPoints km task pts = .ok out) :
    List.Forall₂ (fun cell s => Represents (membersOf km pts cell) s) (occupied km pts) out := by
  have hall := (gridPoints_ok km task pts hne out h).2
  rw [← List.zipIdx_map_fst 0 (occupied km pts), List.forall₂_map_left_iff]
  exact hall.imp fun e s hs => ⟨⟨task, e.2, hs.1⟩, hs.2⟩

/-- Two sources that stand for the same members of one group are counterparts. -/
theorem Represents.counterparts {members members' : List (PointSource ℝ)} {s s' : Source ℝ}
    (h : Represents members s) (h' : Represents members' s') (hperm : members.Perm members')
    (g : Nat) (hgroup : ∀ p ∈ members, p.group = g) :
    ∃ kept created created',
      Counterparts (members.map .point) [s] [s'] kept created created' := by
  rcases h.1 with ⟨task, cell, hstands⟩
  rcases h'.1 with ⟨task', cell', hstands'⟩
  have hlength := hperm.length_eq
  cases s with
  | other o => exact absurd hstands not_false
  | point p =>
      have hmembers : members = [p] := hstands
      cases s' with
      | other o => exact absurd hstands' not_false
      | point q =>
          have hmembers' : members' = [q] := hstands'
          rw [hmembers, hmembers', List.singleton_perm_singleton] at hperm
          rw [hmembers, ← hperm]
          exact ⟨_, [], [], .keep (List.Perm.refl _) (List.Perm.refl _)⟩
      | cluster d =>
          -- One member is not enough for a cluster.
          have hseveral : 2 ≤ members'.length := hstands'.1
          rw [← hlength, hmembers, List.length_singleton] at hseveral
          omega
  | cluster c =>
      have hseveral : 2 ≤ members.length := hstands.1
      have hmembers : c.members = members := hstands.2.1
      cases s' with
      | other o => exact absurd hstands' not_false
      | point q =>
          have hmembers' : members' = [q] := hstands'
          rw [hlength, hmembers', List.length_singleton] at hseveral
          omega
      | cluster d =>
          have hmembers' : d.members = members' := hstands'.2.1
          rw [← hmembers, ← hmembers'] at hperm
          rw [← hmembers] at hgroup hseveral ⊢
          exact ⟨[], [c], [d], .single c d hseveral
            ((h.2 c rfl).sameUpToOrder (h'.2 d rfl) g hgroup hperm)⟩

/-- What stands for the same cells are counterparts. The induction is on the cells,
    through both lists of what stands for them. -/
theorem counterparts_of_standsFor {ι : Type} (g : Nat)
    (membersAt membersAt' : ι → List (PointSource ℝ))
    (hperm : ∀ i, (membersAt i).Perm (membersAt' i))
    (hgroup : ∀ i, ∀ s ∈ membersAt i, s.group = g) (cells : List ι) :
    ∀ out out' : List (Source ℝ),
    List.Forall₂ (fun cell s => Represents (membersAt cell) s) cells out →
    List.Forall₂ (fun cell s => Represents (membersAt' cell) s) cells out' →
    ∃ kept created created',
      Counterparts ((cells.flatMap membersAt).map .point) out out' kept created created' := by
  induction cells with
  | nil =>
      intro out out' h h'
      cases h
      cases h'
      exact ⟨[], [], [], .keep (List.Perm.refl _) (List.Perm.refl _)⟩
  | cons cell rest ih =>
      intro out out' h h'
      cases h with
      | cons hs hrest =>
          cases h' with
          | cons hs' hrest' =>
              rcases hs.counterparts hs' (hperm cell) g (hgroup cell) with ⟨ks, cs, ds, hfirst⟩
              rcases ih _ _ hrest hrest' with ⟨ks', cs', ds', hothers⟩
              rw [List.flatMap_cons, List.map_append]
              exact ⟨_, _, _, hfirst.append hothers⟩

/-- Gridding the same point sources in two orders has counterparts as results. -/
theorem counterparts_of_gridPoints (km : ℝ) (task task' g : Nat)
    (pts pts' : List (PointSource ℝ)) (hperm : pts.Perm pts') (hne : pts ≠ [])
    (hgroup : ∀ s ∈ pts, s.group = g) (out out' : List (Source ℝ))
    (h : gridPoints km task pts = .ok out) (h' : gridPoints km task' pts' = .ok out') :
    ∃ kept created created',
      Counterparts (pts.map .point) out out' kept created created' := by
  have hne' := ne_nil_of_perm hperm hne
  have hout := represents_of_gridPoints km task pts hne out h
  have hout' := represents_of_gridPoints km task' pts' hne' out' h'
  -- The second result is brought into the order of the cells of the first.
  rcases List.perm_comp_forall₂ (occupied_perm hperm km) hout' with ⟨sorted, hsorted, hback⟩
  have hmembers : ∀ cell, ∀ s ∈ membersOf km pts cell, s.group = g := by
    intro cell s hs
    exact hgroup s ((mem_membersOf km pts cell s).mp hs).1
  rcases counterparts_of_standsFor g (membersOf km pts) (membersOf km pts')
    (membersOf_perm hperm km) hmembers (occupied km pts) out sorted hout hsorted with
    ⟨kept, created, created', hcounterparts⟩
  have hcells := (occupied_flatMap_membersOf_perm km pts).map Source.point
  exact ⟨kept, created, created',
    hcounterparts.perm hcells.symm (List.Perm.refl _) hback.symm⟩

/-- A pass over many point sources that succeeds has gridded them. -/
theorem gridSources_many_ok (sources : List (Source ℝ)) (g : Nat) (hne : sources ≠ [])
    (hgroup : ∀ s ∈ sources, s.group = g) (km : ℝ) (hkm : 0.0 < km) (task : Nat)
    (hmany : 2 ≤ (points sources).length) (grouped : Grouped (Source ℝ))
    (h : gridSources sources (some km) task = .ok grouped) :
    ∃ entries, gridPoints km task (points sources) = .ok entries ∧
      grouped = [(g, others sources ++ entries)] := by
  rw [gridSources_of_many sources g hne hgroup km hkm task hmany] at h
  cases hpoints : gridPoints km task (points sources) with
  | error failure =>
      rw [hpoints] at h
      exact absurd h (by simp only [reduceCtorEq, not_false_eq_true])
  | ok entries =>
      rw [hpoints] at h
      exact ⟨entries, rfl, (Except.ok.inj h).symm⟩

section Pass

variable {sources sources' : List (Source ℝ)} (hperm : sources.Perm sources') (g : Nat)
  (hgroup : ∀ s ∈ sources, s.group = g) (spacing : Option ℝ) (task task' : Nat)

include hperm hgroup

/-- A pass succeeds in every order of the sources if it does in one. -/
theorem gridSources_ok_of_perm (hok : ∃ grouped, gridSources sources spacing task = .ok grouped) :
    ∃ grouped, gridSources sources' spacing task' = .ok grouped := by
  by_cases hnil : sources = []
  · subst hnil
    rw [hperm.nil_eq.symm]
    exact ⟨[], rfl⟩
  · have hnil' := ne_nil_of_perm hperm hnil
    have hgroup' : ∀ s ∈ sources', s.group = g := fun s hs => hgroup s (hperm.mem_iff.mpr hs)
    have hpoints : (points sources).Perm (points sources') := hperm.filterMap _
    by_cases hshort : (∀ km, spacing = some km → ¬ 0.0 < km) ∨ (points sources).length < 2
    · rw [hpoints.length_eq] at hshort
      exact gridSources_ok_of_short sources' g hnil' hgroup' spacing task' hshort
    · -- Otherwise there is a grid, and the point sources on it decide.
      rw [not_or] at hshort
      simp only [not_forall, not_not, exists_prop] at hshort
      rcases hshort with ⟨⟨km, hspacing, hkm⟩, hfew⟩
      have hmany : 2 ≤ (points sources).length := by omega
      have hsome : points sources ≠ [] := List.length_pos_iff.mp (by omega)
      subst hspacing
      rw [gridSources_eq_ok_iff sources g hnil hgroup km hkm task hmany] at hok
      rw [hpoints.length_eq] at hmany
      rw [gridSources_eq_ok_iff sources' g hnil' hgroup' km hkm task' hmany]
      exact gridPoints_ok_of_perm hpoints km hsome task task' hok

/-- Two passes that succeed return counterparts, under the same group. -/
theorem counterparts_of_gridSources (grouped grouped' : Grouped (Source ℝ))
    (h : gridSources sources spacing task = .ok grouped)
    (h' : gridSources sources' spacing task' = .ok grouped') :
    grouped.map Prod.fst = grouped'.map Prod.fst ∧ ∃ kept created created',
      Counterparts sources grouped.toList grouped'.toList kept created created' := by
  by_cases hnil : sources = []
  · subst hnil
    rw [hperm.nil_eq.symm] at h'
    rw [← Except.ok.inj h, ← Except.ok.inj h']
    exact ⟨rfl, _, _, _, .keep (List.Perm.refl _) (List.Perm.refl _)⟩
  · have hnil' := ne_nil_of_perm hperm hnil
    have hgroup' : ∀ s ∈ sources', s.group = g := fun s hs => hgroup s (hperm.mem_iff.mpr hs)
    have hpoints : (points sources).Perm (points sources') := hperm.filterMap _
    have hothers : (others sources').Perm (others sources) := (hperm.filter _).symm
    have hsplit := others_append_points_perm sources
    have hsplit' := (others_append_points_perm sources').trans hperm.symm
    -- Spacing and number of point sources are the same for both, so both passes end
    -- in the same way.
    cases hspacing : positive? spacing with
    | none =>
        have hno := (positive?_eq_none_iff spacing).mp hspacing
        rw [gridSources_of_none sources g hnil hgroup spacing task hno, Except.ok.injEq] at h
        rw [gridSources_of_none sources' g hnil' hgroup' spacing task' hno, Except.ok.injEq] at h'
        rw [← h, ← h', toList_single, toList_single]
        exact ⟨rfl, _, _, _, .keep (List.Perm.refl _) hperm.symm⟩
    | some km =>
        rcases (positive?_eq_some_iff spacing km).mp hspacing with ⟨hsome, hkm⟩
        rw [hsome] at h h'
        have hlength := hpoints.length_eq
        by_cases hfew : (points sources).length < 2
        · rw [gridSources_of_few sources g hnil hgroup km hkm task hfew, Except.ok.injEq] at h
          rw [hlength] at hfew
          rw [gridSources_of_few sources' g hnil' hgroup' km hkm task' hfew, Except.ok.injEq] at h'
          rw [← h, ← h', toList_single, toList_single]
          exact ⟨rfl, _, _, _, .keep hsplit hsplit'⟩
        · have hmany : 2 ≤ (points sources).length := Nat.le_of_not_lt hfew
          have hmany' : 2 ≤ (points sources').length := hlength ▸ hmany
          rcases gridSources_many_ok sources g hnil hgroup km hkm task hmany grouped h with
            ⟨entries, hentries, hgrouped⟩
          rcases gridSources_many_ok sources' g hnil' hgroup' km hkm task' hmany' grouped' h' with
            ⟨entries', hentries', hgrouped'⟩
          have hnone : points sources ≠ [] := List.length_pos_iff.mp (by omega)
          have hpts : ∀ s ∈ points sources, s.group = g :=
            fun s hs => hgroup _ (mem_of_mem_points sources s hs)
          rcases counterparts_of_gridPoints km task task' g _ _ hpoints hnone hpts entries entries'
            hentries hentries' with ⟨kept, created, created', hcounterparts⟩
          have hkept := Counterparts.keep (List.Perm.refl (others sources)) hothers
          rw [hgrouped, hgrouped', toList_single, toList_single]
          exact ⟨rfl, _, _, _, (hkept.append hcounterparts).perm hsplit.symm (List.Perm.refl _)
            (List.Perm.refl _)⟩

end Pass

/-- The gridding pass does not depend on the order of the sources.

    Take the same sources of one group in two orders, any spacing and any task
    numbers. Either both passes fail or both succeed. If they succeed, they return
    the same group. The same sources are kept by both, and all others are point
    sources that have become members of clusters. The clusters of the two passes
    correspond: they have the same members, the same averaged geometry and the same
    merged bins, and they differ at most in id, model index and the order of their
    members. -/
theorem gridSources_order (sources sources' : List (Source ℝ)) (hperm : sources.Perm sources')
    (g : Nat) (hgroup : ∀ s ∈ sources, s.group = g) (spacing : Option ℝ) (task task' : Nat) :
    ((∃ grouped, gridSources sources spacing task = .ok grouped) ↔
      ∃ grouped, gridSources sources' spacing task' = .ok grouped) ∧
    ∀ grouped grouped', gridSources sources spacing task = .ok grouped →
      gridSources sources' spacing task' = .ok grouped' →
      grouped.map Prod.fst = grouped'.map Prod.fst ∧ ∃ kept created created',
        grouped.toList.Perm (kept ++ created.map .cluster) ∧
        grouped'.toList.Perm (kept ++ created'.map .cluster) ∧
        sources.Perm (kept ++ created.flatMap fun c => c.members.map .point) ∧
        (∀ c ∈ created, 2 ≤ c.members.length) ∧
        List.Forall₂ Cluster.SameUpToOrder created created' := by
  have hgroup' : ∀ s ∈ sources', s.group = g := fun s hs => hgroup s (hperm.mem_iff.mpr hs)
  refine ⟨⟨fun hok => ?_, fun hok => ?_⟩, fun grouped grouped' h h' => ?_⟩
  · exact gridSources_ok_of_perm hperm g hgroup spacing task task' hok
  · exact gridSources_ok_of_perm hperm.symm g hgroup' spacing task' task hok
  · rcases counterparts_of_gridSources hperm g hgroup spacing task task' grouped grouped' h h' with
      ⟨hkeys, kept, created, created', hcounterparts⟩
    exact ⟨hkeys, kept, created, created', hcounterparts.later, hcounterparts.other,
      hcounterparts.sources, hcounterparts.several, hcounterparts.alike⟩

/-- Two sources at one place can be gridded. -/
theorem gridSources_pair_ok (a b : String) (task : Nat) :
    ∃ grouped, gridSources [.point (atOrigin a), .point (atOrigin b)] (some (1 : ℝ)) task
      = .ok grouped := by
  have hpos : (0.0 : ℝ) < 1 := by norm_num
  have hgroup : ∀ s ∈ ([.point (atOrigin a), .point (atOrigin b)] : List (Source ℝ)),
      s.group = 3 := by
    rw [List.forall_mem_cons, List.forall_mem_singleton]
    exact ⟨rfl, rfl⟩
  have huniform : Uniform ([atOrigin a, atOrigin b] : List (PointSource ℝ)) :=
    (uniform_pair_iff _ _).mpr
      ⟨PointSource.agrees_refl _, (PointSource.agrees_iff _ _).mpr ⟨rfl, rfl, rfl⟩⟩
  rcases gridPoints_pair 1 (atOrigin a) (atOrigin b) ⟨rfl, rfl⟩ task (griddable_pair a b)
    huniform with ⟨c, hc, _⟩
  rw [gridSources_eq_ok_iff _ 3 (List.cons_ne_nil _ _) hgroup 1 hpos task (le_refl 2)]
  exact ⟨_, hc⟩

/-- Two sources at one place are gridded alike in both orders. -/
theorem gridSources_order_pair : ∃ grouped grouped' : Grouped (Source ℝ),
    gridSources [.point (atOrigin "a"), .point (atOrigin "b")] (some (1 : ℝ)) 7 = .ok grouped ∧
    gridSources [.point (atOrigin "b"), .point (atOrigin "a")] (some (1 : ℝ)) 8 = .ok grouped' ∧
    ∃ kept created created',
      grouped.toList.Perm (kept ++ created.map .cluster) ∧
      grouped'.toList.Perm (kept ++ created'.map .cluster) ∧
      List.Forall₂ Cluster.SameUpToOrder created created' := by
  have hgroup : ∀ s ∈ ([.point (atOrigin "a"), .point (atOrigin "b")] : List (Source ℝ)),
      s.group = 3 := by
    rw [List.forall_mem_cons, List.forall_mem_singleton]
    exact ⟨rfl, rfl⟩
  rcases gridSources_pair_ok "a" "b" 7 with ⟨grouped, h⟩
  rcases gridSources_pair_ok "b" "a" 8 with ⟨grouped', h'⟩
  rcases (gridSources_order _ _ (List.Perm.swap _ _ _) 3 hgroup (some 1) 7 8).2 grouped grouped' h
    h' with ⟨_, kept, created, created', hlater, hother, _, _, halike⟩
  exact ⟨grouped, grouped', h, h', kept, created, created', hlater, hother, halike⟩

end Gridding

end Seismicity
