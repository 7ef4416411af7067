import Seismicity.Proofs.Gridding.Batches

/-!
# Runs of Passes

Nothing is lost, made up or altered by gridding, however often it is repeated
and whichever passes fail.

What a pass does to a list of sources is said by `Collapsing`: some point
sources are gone, and in their place there are clusters that hold them. It says
this of the two kinds of sources apart, point sources and all others, and up to
order, because a pass sorts by group and moves point sources to the end. Both
clauses add up, over the groups of one pass as well as over the passes of a run,
so it is shown of the pass over one group, joined over the groups and then
chained along the run.

Only point sources are ever taken. A cluster is among the others, so it is
carried along, and no cluster becomes a member of another.

## Main definitions

* `Cluster.Consistent`: Members of a cluster agree with it.
* `Gridding.Collapsing`: A list of sources becomes another by clustering.
* `Gridding.rupturesOf`: The ruptures of all point sources and clusters.

## Theorems

* `others_append_points_perm`: Each source is a point source or another one.
* `Collapsing.refl`, `Collapsing.trans`, `Collapsing.append`, `Collapsing.perm`:
  Clustering nothing, twice, side by side, and up to order.
* `Collapsing.leaves_perm`, `Collapsing.ruptures_perm`: What clustering keeps.
* `Collapsing.cluster_mem`: Clusters are not touched.
* `collapsing_of_gridPoints`, `collapsing_of_gridSources`,
  `collapsing_of_gridSources_ok`: The pass over one group.
* `collapsing_of_step`: The pass over all groups.
* `collapsing_of_run`: Several passes.
* `run_conserves`: What every list of a run has in common.
-/

namespace Seismicity

variable {α : Type} [Scalar α]

/-- The cluster has at least two members, and they agree with it on group,
    tectonic region type, scaling relation and occurrence in time. -/
structure Cluster.Consistent (c : Cluster α) : Prop where
  several : 2 ≤ c.members.length
  group : ∀ s ∈ c.members, s.group = c.group
  region : ∀ s ∈ c.members, s.region = c.region
  scaling : ∀ s ∈ c.members, s.scaling = c.scaling
  occurrence : ∀ s ∈ c.members, (s.occurrence == c.occurrence) = true

namespace Gridding

/-- The earlier list becomes the later one when clusters are created: their
    members are taken from the point sources, and they join the other sources.
    Apart from that only the order changes. -/
structure Collapsing (earlier later : List (Source α)) (created : List (Cluster α)) : Prop where
  points : (points earlier).Perm (points later ++ created.flatMap Cluster.members)
  others : (others later).Perm (others earlier ++ created.map .cluster)
  consistent : ∀ c ∈ created, c.Consistent

/-- The ruptures of all point sources and clusters of a list. -/
def rupturesOf (options : RuptureOptions α) (sources : List (Source α)) : List (Rupture α) :=
  (sources.filterMap Source.pointLike?).flatMap fun p => p.ruptures options

omit [Scalar α] in
theorem points_append (xs ys : List (Source α)) : points (xs ++ ys) = points xs ++ points ys :=
  List.filterMap_append

omit [Scalar α] in
theorem others_append (xs ys : List (Source α)) : others (xs ++ ys) = others xs ++ others ys :=
  List.filter_append xs ys

omit [Scalar α] in
theorem points_map_point (pts : List (PointSource α)) : points (pts.map Source.point) = pts := by
  rw [points, List.filterMap_map]
  exact List.filterMap_some

omit [Scalar α] in
theorem others_map_point (pts : List (PointSource α)) : others (pts.map Source.point) = [] := by
  rw [others, List.filter_map, List.map_eq_nil_iff, List.filter_eq_nil_iff]
  intro s _
  exact Bool.false_ne_true

omit [Scalar α] in
/-- Each source is a point source or one of the others. -/
theorem others_append_points_perm (sources : List (Source α)) :
    (others sources ++ (points sources).map Source.point).Perm sources := by
  induction sources with
  | nil => exact List.Perm.refl _
  | cons s rest ih =>
      cases s with
      | point s => exact List.perm_middle.trans (ih.cons (.point s))
      | cluster c => exact ih.cons (.cluster c)
      | other o => exact ih.cons (.other o)

omit [Scalar α] in
theorem mem_of_mem_points (sources : List (Source α)) (s : PointSource α)
    (h : s ∈ points sources) : .point s ∈ sources := by
  have hpoint : Source.point s ∈ others sources ++ (points sources).map Source.point :=
    List.mem_append_right _ (List.mem_map_of_mem h)
  exact (others_append_points_perm sources).mem_iff.mp hpoint

/-- Joining lists for numbered entries does not depend on the numbers. -/
theorem flatMap_zipIdx_fst {β γ : Type} (xs : List β) (f : β → List γ) :
    (xs.zipIdx.flatMap fun e => f e.1) = xs.flatMap f := by
  have hjoin := List.flatMap_map Prod.fst f xs.zipIdx
  rw [List.zipIdx_map_fst] at hjoin
  exact hjoin.symm

/-- The middle two of four lists change places. -/
theorem perm_append_append_swap {β : Type} (as bs cs ds : List β) :
    ((as ++ bs) ++ (cs ++ ds)).Perm ((as ++ cs) ++ (bs ++ ds)) := by
  rw [List.append_assoc, List.append_assoc, ← List.append_assoc bs, ← List.append_assoc cs]
  exact (List.perm_append_comm.append_right ds).append_left as

namespace Collapsing

variable {xs ys zs xs' ys' : List (Source α)} {cs ds : List (Cluster α)}

theorem refl (xs : List (Source α)) : Collapsing xs xs [] := by
  refine ⟨?_, ?_, fun c hc => absurd hc List.not_mem_nil⟩
  · rw [List.flatMap_nil, List.append_nil]
  · rw [List.map_nil, List.append_nil]

theorem trans (h : Collapsing xs ys cs) (h' : Collapsing ys zs ds) :
    Collapsing xs zs (cs ++ ds) := by
  refine ⟨?_, ?_, List.forall_mem_append.mpr ⟨h.consistent, h'.consistent⟩⟩
  · calc
      List.Perm (Gridding.points xs) (Gridding.points ys ++ cs.flatMap Cluster.members) := h.points
      List.Perm _ (Gridding.points zs ++ ds.flatMap Cluster.members
          ++ cs.flatMap Cluster.members) := h'.points.append_right _
      List.Perm _ (Gridding.points zs ++ (cs ++ ds).flatMap Cluster.members) := by
        rw [List.append_assoc, List.flatMap_append]
        exact List.perm_append_comm.append_left _
  · rw [List.map_append, ← List.append_assoc]
    exact h'.others.trans (h.others.append_right _)

theorem append (h : Collapsing xs ys cs) (h' : Collapsing xs' ys' ds) :
    Collapsing (xs ++ xs') (ys ++ ys') (cs ++ ds) := by
  refine ⟨?_, ?_, List.forall_mem_append.mpr ⟨h.consistent, h'.consistent⟩⟩
  · rw [points_append, points_append, List.flatMap_append]
    exact (h.points.append h'.points).trans (perm_append_append_swap _ _ _ _)
  · rw [others_append, others_append, List.map_append]
    exact (h.others.append h'.others).trans (perm_append_append_swap _ _ _ _)

/-- The members of a cluster become the cluster. -/
theorem single (c : Cluster α) (h : c.Consistent) :
    Collapsing (c.members.map Source.point) [.cluster c] [c] := by
  refine ⟨?_, ?_, ?_⟩
  · rw [points_map_point, List.flatMap_singleton]
    exact List.Perm.refl _
  · rw [others_map_point]
    exact List.Perm.refl _
  · rw [List.forall_mem_singleton]
    exact h

/-- Clustering does not depend on the order of either list. -/
theorem perm (h : Collapsing xs ys cs) (hx : xs'.Perm xs) (hy : ys.Perm ys') :
    Collapsing xs' ys' cs := by
  refine ⟨?_, ?_, h.consistent⟩
  · exact (hx.filterMap _).trans (h.points.trans ((hy.filterMap _).append_right _))
  · exact (hy.filter _).symm.trans (h.others.trans ((hx.filter _).symm.append_right _))

/-- Lists that are clustered one by one are clustered together. -/
theorem flatMap {ι : Type} (is : List ι) (f g : ι → List (Source α))
    (h : ∀ i ∈ is, ∃ created, Collapsing (f i) (g i) created) :
    ∃ created, Collapsing (is.flatMap f) (is.flatMap g) created := by
  induction is with
  | nil => exact ⟨[], refl []⟩
  | cons i rest ih =>
      rcases h i List.mem_cons_self with ⟨cs, hcs⟩
      rcases ih fun j hj => h j (List.mem_cons_of_mem i hj) with ⟨ds, hds⟩
      rw [List.flatMap_cons, List.flatMap_cons]
      exact ⟨cs ++ ds, hcs.append hds⟩

/-- A cluster is left as it is. -/
theorem cluster_mem (h : Collapsing xs ys cs) (c : Cluster α) (hc : .cluster c ∈ xs) :
    .cluster c ∈ ys := by
  have hothers : .cluster c ∈ Gridding.others xs := List.mem_filter.mpr ⟨hc, rfl⟩
  exact (List.mem_filter.mp (h.others.mem_iff.mpr (List.mem_append_left _ hothers))).1

/-- What belongs to a cluster as it does to its members is kept. -/
theorem flatMap_perm {β : Type} (h : Collapsing xs ys cs) (f : Source α → List β)
    (hf : ∀ c : Cluster α, f (.cluster c) = c.members.flatMap fun s => f (.point s)) :
    (ys.flatMap f).Perm (xs.flatMap f) := by
  -- Both lists are split into point sources and others; what the clusters have
  -- is then moved from the one part to the other.
  have hcreated : (cs.map Source.cluster).flatMap f
      = ((cs.flatMap Cluster.members).map Source.point).flatMap f := by
    rw [List.flatMap_map, List.flatMap_map, List.flatMap_assoc]
    exact List.flatMap_congr fun c _ => hf c
  have hsplit : ∀ zs : List (Source α), (zs.flatMap f).Perm
      ((Gridding.others zs).flatMap f ++ ((Gridding.points zs).map Source.point).flatMap f) := by
    intro zs
    rw [← List.flatMap_append]
    exact (others_append_points_perm zs).symm.flatMap_right f
  have hothers := h.others.flatMap_right f
  have hpoints := (h.points.map Source.point).flatMap_right f
  rw [List.flatMap_append, hcreated] at hothers
  rw [List.map_append, List.flatMap_append] at hpoints
  calc
    List.Perm (ys.flatMap f) _ := hsplit ys
    List.Perm _ _ := hothers.append_right _
    List.Perm _ ((Gridding.others xs).flatMap f
        ++ (((Gridding.points ys).map Source.point).flatMap f
          ++ ((cs.flatMap Cluster.members).map Source.point).flatMap f)) := by
      rw [List.append_assoc]
      exact List.perm_append_comm.append_left _
    List.Perm _ _ := hpoints.symm.append_left _
    List.Perm _ (xs.flatMap f) := (hsplit xs).symm

/-- The sources that were not made by clustering stay the same. -/
theorem leaves_perm (h : Collapsing xs ys cs) :
    (ys.flatMap Source.leaves).Perm (xs.flatMap Source.leaves) :=
  h.flatMap_perm Source.leaves fun _ => List.map_eq_flatMap

/-- The ruptures stay the same, whatever the options. -/
theorem ruptures_perm (h : Collapsing xs ys cs) (options : RuptureOptions α) :
    (rupturesOf options ys).Perm (rupturesOf options xs) := by
  have heq : ∀ zs : List (Source α), rupturesOf options zs
      = zs.flatMap fun s => s.pointLike?.toList.flatMap fun p => p.ruptures options := by
    intro zs
    rw [rupturesOf, List.filterMap_eq_flatMap_toList, List.flatMap_assoc]
  rw [heq, heq]
  refine h.flatMap_perm _ fun c => ?_
  simp only [Source.pointLike?, Option.toList_some, List.flatMap_singleton]
  rfl

end Collapsing

/-- What stands for cells clusters their members. -/
theorem collapsing_of_standsFor {ι : Type} (task g : Nat) (membersAt : ι → List (PointSource α))
    (hgroup : ∀ i, ∀ s ∈ membersAt i, s.group = g) (numbered : List (ι × Nat))
    (entries : List (Source α))
    (h : List.Forall₂ (fun e s => StandsFor task e.2 (membersAt e.1) s ∧
      ∀ c, s = .cluster c → c.Formed) numbered entries) :
    ∃ created, Collapsing ((numbered.flatMap fun e => membersAt e.1).map Source.point) entries
      created := by
  -- The induction is on the cells: each adds its members on the one side and what
  -- stands for them on the other.
  induction h with
  | nil => exact ⟨[], Collapsing.refl []⟩
  | @cons e s numbered entries hstands hrest ih =>
      rcases ih with ⟨created, hcreated⟩
      rw [List.flatMap_cons, List.map_append]
      cases s with
      | other o => exact absurd hstands.1 not_false
      | point s =>
          have hmembers : membersAt e.1 = [s] := hstands.1
          rw [hmembers]
          exact ⟨created, (Collapsing.refl [.point s]).append hcreated⟩
      | cluster c =>
          have hmembers : c.members = membersAt e.1 := hstands.1.2.1
          have hformed : c.Formed := hstands.2 c rfl
          have hshared : ∀ s ∈ c.members, s.group = g := by
            rw [hmembers]
            exact hgroup e.1
          have hconsistent : c.Consistent :=
            { several := hmembers ▸ hstands.1.1
              group := fun s hs => (hshared s hs).trans (hformed.group g hshared).symm
              region := fun s hs => (hformed.agrees s hs).1
              scaling := fun s hs => (hformed.agrees s hs).2.1
              occurrence := fun s hs => (hformed.agrees s hs).2.2 }
          rw [← hmembers]
          exact ⟨c :: created, (Collapsing.single c hconsistent).append hcreated⟩

/-- Gridding point sources of one group clusters some of them. -/
theorem collapsing_of_gridPoints (km : α) (task g : Nat) (pts : List (PointSource α))
    (hne : pts ≠ []) (hgroup : ∀ s ∈ pts, s.group = g) (entries : List (Source α))
    (h : gridPoints km task pts = .ok entries) :
    ∃ created, Collapsing (pts.map Source.point) entries created := by
  have hmembers : ∀ cell, ∀ s ∈ membersOf km pts cell, s.group = g := by
    intro cell s hs
    exact hgroup s ((mem_membersOf km pts cell s).mp hs).1
  rcases collapsing_of_standsFor task g (membersOf km pts) hmembers _ entries
    (gridPoints_ok km task pts hne entries h).2 with ⟨created, hcreated⟩
  rw [flatMap_zipIdx_fst] at hcreated
  have hcells := (occupied_flatMap_membersOf_perm km pts).map Source.point
  exact ⟨created, hcreated.perm hcells.symm (List.Perm.refl _)⟩

/-- The pass over the sources of one group clusters some of its point
    sources. -/
theorem collapsing_of_gridSources (batch : List (Source α)) (g : Nat) (hne : batch ≠ [])
    (hgroup : ∀ s ∈ batch, s.group = g) (spacing : Option α) (task : Nat) (out : List (Source α))
    (h : gridSources batch spacing task = .ok [(g, out)]) :
    ∃ created, Collapsing batch out created := by
  have hkept := others_append_points_perm batch
  rcases gridSources_cases batch g hne hgroup spacing task out h with
    ⟨_, hinput⟩ | ⟨km, _, ⟨_, hmoved⟩ | ⟨hmany, entries, hentries, hjoined⟩⟩
  · rw [hinput]
    exact ⟨[], Collapsing.refl batch⟩
  · -- Too few point sources for a cluster: they are only moved to the end.
    rw [hmoved]
    exact ⟨[], (Collapsing.refl batch).perm (List.Perm.refl _) hkept.symm⟩
  · have hsome : points batch ≠ [] := List.length_pos_iff.mp (by omega)
    have hpts : ∀ s ∈ points batch, s.group = g :=
      fun s hs => hgroup _ (mem_of_mem_points batch s hs)
    rcases collapsing_of_gridPoints km task g _ hsome hpts entries hentries with
      ⟨created, hcreated⟩
    rw [hjoined]
    exact ⟨[] ++ created, ((Collapsing.refl (others batch)).append hcreated).perm
      hkept.symm (List.Perm.refl _)⟩

/-- A pass that succeeds clusters some of the point sources, whatever sources it was
    given. -/
theorem collapsing_of_gridSources_ok (sources : List (Source α)) (spacing : Option α)
    (task : Nat) (grouped : Grouped (Source α))
    (h : gridSources sources spacing task = .ok grouped) :
    ∃ created, Collapsing sources grouped.toList created := by
  cases sources with
  | nil =>
      rw [gridSources, Except.ok.injEq] at h
      rw [← h]
      exact ⟨[], Collapsing.refl []⟩
  | cons first rest =>
      have hgroup := group_eq_of_gridSources_ok first rest spacing task grouped h
      rcases gridSources_ok (first :: rest) first.group (List.cons_ne_nil _ _) hgroup spacing task
        grouped h with ⟨out, hout, _⟩
      rw [hout] at h ⊢
      rw [Grouped.toList, List.flatMap_singleton]
      exact collapsing_of_gridSources _ first.group (List.cons_ne_nil _ _) hgroup spacing task
        out h

/-- One pass over all groups clusters some of the point sources. -/
theorem collapsing_of_step (spacing : Option α) (earlier later : List (Source α))
    (h : step spacing earlier = .ok later) : ∃ created, Collapsing earlier later created := by
  rw [step] at h
  cases hgroups : gridGroups (splitByGroup earlier) spacing with
  | error failure =>
      rw [hgroups] at h
      exact absurd h (by simp only [reduceCtorEq, not_false_eq_true])
  | ok m =>
      rw [hgroups, Except.ok.injEq, gridGroups_splitByGroup_eq spacing earlier m hgroups,
        Grouped.toList, List.flatMap_map] at h
      have hpasses : ∀ e ∈ (groups earlier).zipIdx, ∃ created,
          Collapsing (ofGroup earlier e.1) (produced spacing (ofGroup earlier e.1) e.2)
            created := by
        intro e he
        have hrank := List.mem_zipIdx_iff_getElem?.mp he
        exact collapsing_of_gridSources _ e.1
          (ofGroup_ne_nil earlier e.1 (List.mem_of_getElem? hrank))
          (group_of_mem_ofGroup earlier e.1) spacing e.2 _
          (gridSources_ofGroup_ok spacing earlier m hgroups e.2 e.1 hrank)
      rcases Collapsing.flatMap (groups earlier).zipIdx (fun e => ofGroup earlier e.1) _
        hpasses with ⟨created, hcreated⟩
      rw [← h]
      -- The ranks of the groups do not matter for what is split off.
      rw [flatMap_zipIdx_fst] at hcreated
      exact ⟨created, hcreated.perm (ofGroup_perm earlier).symm (List.Perm.refl _)⟩

/-- Several passes, of which some may fail, cluster some of the point sources. -/
theorem collapsing_of_run (spacings : List (Option α)) : ∀ (start : List (Source α)),
    ∃ created, Collapsing start (run spacings start) created := by
  induction spacings with
  | nil =>
      intro start
      exact ⟨[], Collapsing.refl start⟩
  | cons spacing rest ih =>
      intro start
      rw [run, List.foldl_cons]
      cases hstep : step spacing start with
      | error failure =>
          -- The pass failed, so the run goes on from the same list.
          exact ih start
      | ok later =>
          rcases collapsing_of_step spacing start later hstep with ⟨cs, hcs⟩
          rcases ih later with ⟨ds, hds⟩
          exact ⟨cs ++ ds, hcs.trans hds⟩

/-- Whole runs lose, duplicate and alter nothing.

    Take any list of a run, and any earlier list of the run, which may be the one
    it starts from. The sources that were not made by clustering are those at
    the start. Between the two lists clusters have been created, each with at
    least two members which agree with it on group, tectonic region type, scaling
    relation and occurrence in time; their members are exactly the point sources
    that are gone. All clusters of the earlier list are still there; members are
    point sources, so no cluster is a member of another. And whatever the options,
    the ruptures of the list are those at the start. -/
theorem run_conserves (start : List (Source α)) (before after : List (Option α)) :
    ((run (before ++ after) start).flatMap Source.leaves).Perm (start.flatMap Source.leaves) ∧
    (∃ created, Collapsing (run before start) (run (before ++ after) start) created) ∧
    (∀ c, .cluster c ∈ run before start → .cluster c ∈ run (before ++ after) start) ∧
    ∀ options, (rupturesOf options (run (before ++ after) start)).Perm
      (rupturesOf options start) := by
  rcases collapsing_of_run (before ++ after) start with ⟨cs, hstart⟩
  have hbetween := collapsing_of_run after (run before start)
  have happend : run after (run before start) = run (before ++ after) start :=
    List.foldl_append.symm
  rw [happend] at hbetween
  rcases hbetween with ⟨ds, hds⟩
  exact ⟨hstart.leaves_perm, ⟨ds, hds⟩, fun c hc => hds.cluster_mem c hc, hstart.ruptures_perm⟩

end Gridding

end Seismicity
