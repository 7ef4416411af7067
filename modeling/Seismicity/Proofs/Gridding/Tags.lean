import Seismicity.Proofs.Gridding.Runs

/-!
# The Tags of Clusters

Which tags a cluster shares with its members.

A cluster is given the tags of its first member. Whether they are those of the other
members too is decided elsewhere. The group is the same for all sources of a pass, or the
pass fails; region, scaling relation and occurrence in time are compared when the cluster
is formed. The model index is compared nowhere. The members of a cluster are the point
sources of a cell in their order, so the index of the cluster is that of the first source
in its cell, and it stands for all members exactly if the sources that share a cell share
their index.

A pass does not say which clusters it has created. Whatever clusters account for its
result, they are those that stand for cells: what is not a point source is either carried
along or stands for a cell, and the former can be cancelled (`created_cases`).

## Main definitions

* `Gridding.fromModels`: Two sources at one place, from two source models.

## Theorems

* `Cluster.Formed.modelIndex`, `Cluster.Formed.modelIndex_iff`: The model index of a
  cluster.
* `cluster_of_gridPoints`, `exists_cluster_of_gridPoints`: The clusters that stand for
  cells.
* `modelIndex_iff_cells`: When all of them have the model indices of their members.
* `created_cases`: The clusters that a pass creates are those.
* `exists_created_fromModels`: Source models do not keep sources apart.
* `gridSources_tags`: Tags of clusters and tags of members.
* `gridSources_mixes_indices`: Members with different model indices.
-/

namespace Seismicity

variable {α : Type} [Scalar α]

/-- A cluster has the model index of its first member. -/
theorem Cluster.Formed.modelIndex {c : Cluster α} (h : c.Formed) :
    ∃ first, c.members.head? = some first ∧ c.modelIndex = first.modelIndex := by
  rcases h with ⟨first, rest, hc, _⟩
  rw [hc]
  exact ⟨first, rfl, rfl⟩

/-- It has the model index of all members if they share one. -/
theorem Cluster.Formed.modelIndex_iff {c : Cluster α} (h : c.Formed) :
    (∀ s ∈ c.members, s.modelIndex = c.modelIndex) ↔
      ∀ s ∈ c.members, ∀ t ∈ c.members, s.modelIndex = t.modelIndex := by
  rcases h.modelIndex with ⟨first, hfirst, hindex⟩
  constructor
  · intro hall s hs t ht
    exact (hall s hs).trans (hall t ht).symm
  · intro hshared s hs
    rw [hindex]
    exact hshared s hs first (List.mem_of_mem_head? hfirst)

namespace Gridding

/-- Each entry of a list has a related one in the other list. -/
theorem exists_related {β γ : Type} {R : β → γ → Prop} {xs : List β} {ys : List γ}
    (h : List.Forall₂ R xs ys) : ∀ x ∈ xs, ∃ y ∈ ys, R x y := by
  induction h with
  | nil => exact fun x hx => absurd hx List.not_mem_nil
  | @cons x y xs ys hxy _ ih =>
      rw [List.forall_mem_cons]
      refine ⟨⟨y, List.mem_cons_self, hxy⟩, fun z hz => ?_⟩
      rcases ih z hz with ⟨w, hw, hzw⟩
      exact ⟨w, List.mem_cons_of_mem y hw, hzw⟩

/-- A list of fewer than two entries has no two different ones. -/
theorem eq_of_mem_of_short {β : Type} {xs : List β} (hshort : xs.length < 2) {x y : β}
    (hx : x ∈ xs) (hy : y ∈ xs) : x = y := by
  match xs with
  | [] => exact absurd hx List.not_mem_nil
  | [z] => exact (List.mem_singleton.mp hx).trans (List.mem_singleton.mp hy).symm
  | _ :: _ :: rest =>
      simp only [List.length_cons] at hshort
      omega

section Cells

variable {km : α} {task : Nat} {pts : List (PointSource α)} {out : List (Source α)}
  (hne : pts ≠ []) (h : gridPoints km task pts = .ok out)

include hne h

/-- Clusters that gridding creates stand for cells. -/
theorem cluster_of_gridPoints (c : Cluster α) (hc : .cluster c ∈ out) :
    c.Formed ∧ ∃ cell, c.members = membersOf km pts cell := by
  have hall := (gridPoints_ok km task pts hne out h).2
  rcases exists_related hall.flip (.cluster c) hc with ⟨entry, _, hstands, hformed⟩
  exact ⟨hformed c rfl, entry.1, hstands.2.1⟩

/-- A cell with several members has a cluster. -/
theorem exists_cluster_of_gridPoints (cell : Nat × Nat) (hcell : cell ∈ occupied km pts)
    (hseveral : 2 ≤ (membersOf km pts cell).length) :
    ∃ c, .cluster c ∈ out ∧ c.members = membersOf km pts cell := by
  have hall := (gridPoints_ok km task pts hne out h).2
  rcases List.mem_iff_getElem?.mp hcell with ⟨i, hi⟩
  rcases exists_related hall (cell, i) (List.mem_zipIdx_iff_getElem?.mpr hi) with
    ⟨s, hs, hstands, _⟩
  -- One member is not enough for a cluster.
  rcases hstands.exists_cluster hseveral with ⟨c, hc, hmembers, _⟩
  exact ⟨c, hc ▸ hs, hmembers⟩

/-- All clusters have the model indices of their members exactly if the point sources in one
    cell have one model index. -/
theorem modelIndex_iff_cells :
    (∀ c, .cluster c ∈ out → ∀ s ∈ c.members, s.modelIndex = c.modelIndex) ↔
      ∀ s ∈ pts, ∀ t ∈ pts, cellOf km pts s = cellOf km pts t → s.modelIndex = t.modelIndex := by
  constructor
  · intro htags s hs t ht hcell
    have hs' := (mem_membersOf km pts _ s).mpr ⟨hs, hcell⟩
    have ht' := (mem_membersOf km pts _ t).mpr ⟨ht, rfl⟩
    by_cases hseveral : 2 ≤ (membersOf km pts (cellOf km pts t)).length
    · -- The two are members of one cluster.
      rcases exists_cluster_of_gridPoints hne h _ ((mem_occupied km pts _).mpr ⟨t, ht, rfl⟩)
        hseveral with ⟨c, hc, hmembers⟩
      rw [← hmembers] at hs' ht'
      exact (htags c hc s hs').trans (htags c hc t ht').symm
    · rw [eq_of_mem_of_short (not_le.mp hseveral) hs' ht']
  · intro hcells c hc
    rcases cluster_of_gridPoints hne h c hc with ⟨hformed, cell, hmembers⟩
    rw [hformed.modelIndex_iff, hmembers]
    intro s hs t ht
    rw [mem_membersOf] at hs ht
    exact hcells s hs.1 t ht.1 (hs.2.trans ht.2.symm)

end Cells

omit [Scalar α] in
theorem others_others (sources : List (Source α)) : others (others sources) = others sources := by
  rw [others, others, List.filter_filter]
  simp only [Bool.and_self]

/-- The clusters that account for the result of a pass. There are none if nothing was
    gridded, and otherwise they are those that stand for cells. -/
theorem created_cases (sources : List (Source α)) (spacing : Option α) (task : Nat)
    (grouped : Grouped (Source α)) (h : gridSources sources spacing task = .ok grouped)
    (created : List (Cluster α)) (hcollapsing : Collapsing sources grouped.toList created) :
    created = [] ∧ (∀ km, positive? spacing = some km → (points sources).length < 2) ∨
      ∃ km entries, positive? spacing = some km ∧ points sources ≠ [] ∧
        gridPoints km task (points sources) = .ok entries ∧
        ∀ c, c ∈ created ↔ .cluster c ∈ entries := by
  have hothers := hcollapsing.others
  -- If the other sources are as they were, no cluster has been created.
  have hnothing : (others grouped.toList).Perm (others sources) → created = [] := by
    intro hsame
    have hlength := (hsame.symm.trans hothers).length_eq
    rw [List.length_append, List.length_map] at hlength
    exact List.eq_nil_of_length_eq_zero (by omega)
  cases sources with
  | nil =>
      rw [gridSources, Except.ok.injEq] at h
      rw [← h] at hnothing
      exact Or.inl ⟨hnothing (List.Perm.refl _), fun _ _ => Nat.zero_lt_two⟩
  | cons first rest =>
      have hgroup := group_eq_of_gridSources_ok first rest spacing task grouped h
      rcases gridSources_ok _ _ (List.cons_ne_nil first rest) hgroup spacing task grouped h with
        ⟨out, hout, hcases⟩
      have hlist : grouped.toList = out := by
        rw [hout, Grouped.toList, List.flatMap_singleton]
      rw [hlist] at hothers hnothing
      rcases hcases with
        ⟨hnone, hinput⟩ | ⟨km, hkm, ⟨hfew, hmoved⟩ | ⟨hmany, entries, hentries, hjoined⟩⟩
      · refine Or.inl ⟨hnothing (by rw [hinput]), fun km hkm => ?_⟩
        rw [hnone] at hkm
        exact absurd hkm (by simp only [reduceCtorEq, not_false_eq_true])
      · refine Or.inl ⟨hnothing ?_, fun _ _ => hfew⟩
        rw [hmoved, others_append, others_others, others_map_point, List.append_nil]
      · refine Or.inr ⟨km, entries, hkm, List.length_pos_iff.mp (by omega), hentries, fun c => ?_⟩
        have hinjective : Function.Injective (Source.cluster : Cluster α → Source α) :=
          fun _ _ => Source.cluster.inj
        rw [hjoined, others_append, others_others, List.perm_append_left_iff] at hothers
        rw [← List.mem_map_of_injective hinjective, ← hothers.mem_iff, others, List.mem_filter]
        exact and_iff_left rfl

/-- Two sources at the origin, from the source models with the given indices. -/
noncomputable def fromModels (i j : Nat) : List (PointSource ℝ) :=
  [(atOrigin "a").withGroup 3 i, (atOrigin "b").withGroup 3 j]

theorem griddable_fromModels (i j : Nat) : Griddable 1 (fromModels i j) := by
  -- The grid does not depend on the model indices.
  have hpair := griddable_pair "a" "b"
  exact ⟨hpair.spacingX, hpair.spacingY, fun _ _ => ⟨rfl, rfl⟩, hpair.columns, hpair.rows⟩

theorem membersOf_fromModels (i j : Nat) (s : PointSource ℝ) (hs : s ∈ fromModels i j) :
    membersOf 1 (fromModels i j) (cellOf 1 (fromModels i j) s) = fromModels i j := by
  have hcell : ∀ t ∈ fromModels i j, cellOf 1 (fromModels i j) t
      = cellOf 1 (fromModels i j) ((atOrigin "a").withGroup 3 i) := by
    rw [fromModels, List.forall_mem_cons, List.forall_mem_singleton]
    exact ⟨rfl, rfl⟩
  rw [membersOf, List.filter_eq_self]
  intro t ht
  rw [hcell t ht, hcell s hs, beq_self_eq_true]

theorem gridSources_fromModels_ok (i j : Nat) :
    ∃ grouped, gridSources ((fromModels i j).map .point) (some 1) 7 = .ok grouped := by
  have hspan : ((50.0 : ℝ) == 50.0) = true := Exact.beq_self _
  have hgroup : ∀ s ∈ (fromModels i j).map Source.point, s.group = 3 := by
    rw [List.forall_mem_map, fromModels, List.forall_mem_cons, List.forall_mem_singleton]
    exact ⟨rfl, rfl⟩
  have huniform : Uniform (fromModels i j) :=
    (uniform_pair_iff _ _).mpr ⟨⟨rfl, rfl, hspan⟩, rfl, rfl, hspan⟩
  rcases gridPoints_pair 1 ((atOrigin "a").withGroup 3 i) ((atOrigin "b").withGroup 3 j)
    ⟨rfl, rfl⟩ 7 (griddable_fromModels i j) huniform with ⟨c, hc, _⟩
  rw [gridSources_of_many ((fromModels i j).map .point) 3 (List.cons_ne_nil _ _) hgroup 1
    (by norm_num) 7 (le_refl 2), points_map_point, fromModels, hc]
  exact ⟨_, rfl⟩

/-- Whatever their source models are, a pass makes the two sources one cluster. -/
theorem exists_created_fromModels (i j : Nat) :
    ∃ grouped created, gridSources ((fromModels i j).map .point) (some 1) 7 = .ok grouped ∧
      Collapsing ((fromModels i j).map .point) grouped.toList created ∧
      ∃ c ∈ created, c.Formed ∧ c.members = fromModels i j := by
  rcases gridSources_fromModels_ok i j with ⟨grouped, hok⟩
  rcases collapsing_of_gridSources_ok _ _ _ _ hok with ⟨created, hcreated⟩
  refine ⟨grouped, created, hok, hcreated, ?_⟩
  have hcases := created_cases _ _ _ _ hok created hcreated
  rw [points_map_point] at hcases
  rcases hcases with ⟨_, hfew⟩ | ⟨km, entries, hkm, hne, hentries, hmem⟩
  · have hone := hfew 1 ((positive?_eq_some_iff _ _).mpr ⟨rfl, by norm_num⟩)
    exact absurd hone (lt_irrefl 2)
  · have heq : 1 = km := Option.some.inj ((positive?_eq_some_iff _ _).mp hkm).1
    subst heq
    -- The cluster stands for the only cell.
    have hfirst : (atOrigin "a").withGroup 3 i ∈ fromModels i j := List.mem_cons_self
    have hmembers := membersOf_fromModels i j _ hfirst
    have hseveral : 2 ≤ (membersOf 1 (fromModels i j)
        (cellOf 1 (fromModels i j) ((atOrigin "a").withGroup 3 i))).length := by
      rw [hmembers]
      exact le_refl 2
    rcases exists_cluster_of_gridPoints hne hentries _
      ((mem_occupied 1 (fromModels i j) _).mpr ⟨_, hfirst, rfl⟩) hseveral with ⟨c, hc, hcell⟩
    exact ⟨c, (hmem c).mpr hc, (cluster_of_gridPoints hne hentries c hc).1, hcell.trans hmembers⟩

/-- The tags of the clusters that a pass creates, and those of their members.

    The members of a cluster are point sources of the pass, in their order, and all have
    the group of the cluster. The model index of the cluster is that of the first. All
    members of all clusters have the model index of their cluster exactly if any two point
    sources in one cell of the grid have the same. -/
theorem gridSources_tags (sources : List (Source α)) (spacing : Option α) (task : Nat)
    (grouped : Grouped (Source α)) (h : gridSources sources spacing task = .ok grouped) :
    (∃ created, Collapsing sources grouped.toList created) ∧
    ∀ created, Collapsing sources grouped.toList created →
      (∀ c ∈ created,
        c.members.Sublist (points sources) ∧
        (∀ s ∈ c.members, s.group = c.group) ∧
        ∃ first, c.members.head? = some first ∧ c.modelIndex = first.modelIndex) ∧
      ((∀ c ∈ created, ∀ s ∈ c.members, s.modelIndex = c.modelIndex) ↔
        ∀ km, spacing = some km → 0.0 < km →
          ∀ s ∈ points sources, ∀ t ∈ points sources,
            cellOf km (points sources) s = cellOf km (points sources) t →
              s.modelIndex = t.modelIndex) := by
  refine ⟨collapsing_of_gridSources_ok sources spacing task grouped h, fun created hcreated => ?_⟩
  rcases created_cases sources spacing task grouped h created hcreated with
    ⟨hnil, hfew⟩ | ⟨km, entries, hkm, hne, hentries, hmem⟩
  · -- Nothing was gridded: there is no cluster, and one point source at most.
    rw [hnil]
    refine ⟨fun c hc => absurd hc List.not_mem_nil, ?_⟩
    refine iff_of_true (fun c hc => absurd hc List.not_mem_nil) ?_
    intro km hspacing hpos s hs t ht _
    have hshort := hfew km ((positive?_eq_some_iff _ _).mpr ⟨hspacing, hpos⟩)
    rw [eq_of_mem_of_short hshort hs ht]
  · refine ⟨fun c hc => ?_, ?_⟩
    · rcases cluster_of_gridPoints hne hentries c ((hmem c).mp hc) with ⟨hformed, cell, hmembers⟩
      refine ⟨?_, (hcreated.consistent c hc).group, hformed.modelIndex⟩
      rw [hmembers]
      exact List.filter_sublist
    · -- There is only one spacing that the cells can be those of.
      have hspacing : ∀ other, spacing = some other → 0.0 < other → other = km := by
        intro other hother hpos
        have hgiven := (positive?_eq_some_iff spacing other).mpr ⟨hother, hpos⟩
        exact Option.some.inj (hgiven.symm.trans hkm)
      rw [forall_congr' fun c => imp_congr_left (hmem c), modelIndex_iff_cells hne hentries]
      constructor
      · intro hcells other hother hpos
        rw [hspacing other hother hpos]
        exact hcells
      · intro hall
        rw [positive?_eq_some_iff] at hkm
        exact hall km hkm.1 hkm.2

/-- Two sources of one source model become a cluster of that source model. -/
theorem gridSources_tags_fromModels :
    ∃ grouped created, gridSources ((fromModels 4 4).map .point) (some 1) 7 = .ok grouped ∧
      Collapsing ((fromModels 4 4).map .point) grouped.toList created ∧ created ≠ [] ∧
      ∀ c ∈ created, ∀ s ∈ c.members, s.group = c.group ∧ s.modelIndex = c.modelIndex := by
  rcases exists_created_fromModels 4 4 with ⟨grouped, created, hok, hcreated, c, hc, _⟩
  rcases (gridSources_tags _ _ _ _ hok).2 created hcreated with ⟨htags, hindices⟩
  have hshared : ∀ s ∈ fromModels 4 4, s.modelIndex = 4 := by
    rw [fromModels, List.forall_mem_cons, List.forall_mem_singleton]
    exact ⟨rfl, rfl⟩
  rw [points_map_point] at hindices
  have hall := hindices.mpr fun km _ _ s hs t ht _ => (hshared s hs).trans (hshared t ht).symm
  exact ⟨grouped, created, hok, hcreated, List.ne_nil_of_mem hc,
    fun c hc s hs => ⟨(htags c hc).2.1 s hs, hall c hc s hs⟩⟩

/-- Sources of two source models become a cluster of the first of them. -/
theorem gridSources_mixes_indices :
    ∃ grouped created, gridSources ((fromModels 0 1).map .point) (some 1) 7 = .ok grouped ∧
      Collapsing ((fromModels 0 1).map .point) grouped.toList created ∧
      ∃ c ∈ created, c.modelIndex = 0 ∧ ∃ s ∈ c.members, s.modelIndex = 1 := by
  rcases exists_created_fromModels 0 1 with
    ⟨grouped, created, hok, hcreated, c, hc, hformed, hmembers⟩
  rcases hformed.modelIndex with ⟨first, hfirst, hindex⟩
  rw [hmembers] at hfirst
  refine ⟨grouped, created, hok, hcreated, c, hc, ?_, (atOrigin "b").withGroup 3 1, ?_, rfl⟩
  · rw [hindex, ← Option.some.inj hfirst]
    rfl
  · rw [hmembers]
    exact List.mem_cons_of_mem _ (List.mem_singleton_self _)

end Gridding

end Seismicity
