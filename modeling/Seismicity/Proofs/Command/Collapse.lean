import Seismicity.Command.Run
import Seismicity.Proofs.Command.Report
import Seismicity.Proofs.Gridding.Failures
import Seismicity.Proofs.Gridding.Naming
import Seismicity.Proofs.Source.Acceptance

/-!
# The Outcome of Collapsing

The two ways in which the outcome of collapsing is written agree, and nothing is
lost in either.

The object has room for one cluster of each id only. The sources of a model are all
point sources, hence every cluster was named by the pass itself, and its names are
distinct (`clusterIds_nodup`). With this, table and object are both complete. The
point sources that are left are those that no cluster has taken, and the members of
the clusters are the others (`Collapsing`); together they are the sources of the
model, with their ids.

## Main definitions

* `Collapses`: A model is read and its sources are collapsed.
* `pairText`: A model with two sources at one place.
* `OriginPair`: Two sources that become one cluster.

## Theorems

* `SourceModel.build_ok`: The sources of a model have the ids of its entries.
* `Collapses.collapsing`, `Collapses.clusterIds_nodup`, `Collapses.points_perm`: What is
  left of a model.
* `Collapses.run_collapse`: What is written.
* `Gridding.gridGroups_pair`: Two sources at one place.
* `Collapses.exists_pair`: The model with two sources is collapsed.
* `collapse_modes_agree`: The two ways to write the outcome.
-/

namespace Seismicity

section Building

variable {α : Type} [Scalar α]

theorem SourceEntry.spec_id (entry : SourceEntry α) (tom : Option (Poisson α))
    (spec : PointSourceSpec α) (h : entry.spec tom = .ok spec) : spec.id = entry.id := by
  unfold SourceEntry.spec at h
  -- Each of the four checks either refuses the entry or passes it on.
  cases hplane : entry.planeFault? <;>
  cases hscaling : ScalingRelation.ofName? entry.scaling <;>
  cases hplanes : Pmf.ofEntries entry.planes <;>
  cases hdepths : Pmf.ofEntries entry.depths <;>
  simp only [hplane, hscaling, hplanes, hdepths, reduceCtorEq, Except.ok.injEq] at h
  rw [← h]

/-- The source of an entry has its id. -/
theorem SourceEntry.build_id (entry : SourceEntry α) (tom : Option (Poisson α))
    (s : PointSource α) (h : entry.build tom = .ok s) : s.id = entry.id := by
  unfold SourceEntry.build at h
  cases hspec : entry.spec tom with
  | error failure =>
      rw [hspec] at h
      exact absurd h (by simp only [reduceCtorEq, not_false_eq_true])
  | ok spec =>
      simp only [hspec] at h
      cases hmade : PointSource.ofSpec spec with
      | error fault =>
          rw [hmade] at h
          exact absurd h (by simp only [reduceCtorEq, not_false_eq_true])
      | ok made =>
          rw [hmade, Except.ok.injEq] at h
          have hid : made.id = spec.id := by
            rw [(PointSource.ofSpec_ok spec made hmade).2]
          rw [← h]
          exact hid.trans (entry.spec_id tom spec hspec)

theorem SourceModel.buildEntries_ids (tom : Option (Poisson α)) (entries : List (SourceEntry α)) :
    ∀ pts, buildEntries tom entries = .ok pts →
      pts.map (fun s => s.id) = entries.map SourceEntry.id := by
  induction entries with
  | nil =>
      intro pts h
      rw [← Except.ok.inj h]
      rfl
  | cons entry rest ih =>
      intro pts h
      rw [buildEntries] at h
      cases hentry : entry.build tom with
      | error failure =>
          rw [hentry] at h
          exact absurd h (by simp only [reduceCtorEq, not_false_eq_true])
      | ok s =>
          simp only [hentry] at h
          cases hrest : buildEntries tom rest with
          | error failure =>
              rw [hrest] at h
              exact absurd h (by simp only [Except.map, reduceCtorEq, not_false_eq_true])
          | ok more =>
              rw [hrest] at h
              rw [← Except.ok.inj h, List.map_cons, List.map_cons, ih more hrest,
                entry.build_id tom s hentry]

/-- The sources of a model are point sources with the ids of its entries. -/
theorem SourceModel.build_ok (model : SourceModel α) (sources : List (Source α))
    (h : model.build = .ok sources) :
    sources = (Gridding.points sources).map .point ∧
      (Gridding.points sources).map (fun s => s.id) = model.entries.map SourceEntry.id := by
  rw [build] at h
  cases hentries : buildEntries model.occurrence model.entries with
  | error failure =>
      rw [hentries] at h
      exact absurd h (by simp only [Except.map, reduceCtorEq, not_false_eq_true])
  | ok pts =>
      rw [hentries] at h
      rw [← Except.ok.inj h, Gridding.points_map_point]
      exact ⟨rfl, buildEntries_ids model.occurrence model.entries pts hentries⟩

end Building

/-- The model in a file is read, its sources are built, and they are collapsed by the
    spacing that is asked for, or else by that of the model. -/
structure Collapses (contents : Except FileFault String) (spacing : Option Float)
    (model : SourceModel Float) (sources : List (Source Float))
    (grouped : Grouped (Source Float)) : Prop where
  load : SourceModel.load contents = .ok model
  build : model.build = .ok sources
  pass : Gridding.gridGroups (Gridding.splitByGroup sources)
    (spacing.or model.positiveSpacing?) = .ok grouped

namespace Collapses

variable {contents : Except FileFault String} {spacing : Option Float}
  {model : SourceModel Float} {sources : List (Source Float)} {grouped : Grouped (Source Float)}
  (h : Collapses contents spacing model sources grouped)

include h

theorem others_eq_nil : Gridding.others sources = [] := by
  rw [(model.build_ok sources h.build).1]
  exact Gridding.others_map_point _

/-- The clusters that are left were all created by the pass. -/
theorem collapsing : ∃ created, Gridding.Collapsing sources grouped.toList created ∧
    (Report.clustersOf grouped.toList).Perm created := by
  have hstep : Gridding.step (spacing.or model.positiveSpacing?) sources = .ok grouped.toList := by
    rw [Gridding.step, h.pass]
  rcases Gridding.collapsing_of_step _ sources grouped.toList hstep with ⟨created, hcreated⟩
  refine ⟨created, hcreated, ?_⟩
  have hothers := hcreated.others
  rw [h.others_eq_nil, List.nil_append] at hothers
  have hclusters : (Report.clustersOf (Gridding.others grouped.toList)).Perm
      (Report.clustersOf (created.map .cluster)) := hothers.filterMap _
  rw [Report.clustersOf_others, Report.clustersOf_map_cluster] at hclusters
  exact hclusters

/-- Nothing but point sources and clusters is left. -/
theorem other_notMem (o : OtherSource) : .other o ∉ grouped.toList := by
  rcases h.collapsing with ⟨created, hcreated, _⟩
  have hothers := hcreated.others
  rw [h.others_eq_nil, List.nil_append] at hothers
  intro ho
  have hmem : Source.other o ∈ created.map Source.cluster :=
    hothers.mem_iff.mp (List.mem_filter.mpr ⟨ho, rfl⟩)
  rcases List.mem_map.mp hmem with ⟨c, _, heq⟩
  exact absurd heq (by simp only [reduceCtorEq, not_false_eq_true])

/-- No two clusters have the same id. -/
theorem clusterIds_nodup : ((Report.clustersOf grouped.toList).map Cluster.id).Nodup :=
  (Report.clusterIds_sublist grouped.toList).nodup
    (Gridding.clusterIds_nodup sources h.others_eq_nil _ grouped h.pass)

/-- The point sources that are left and the members of the clusters are the sources of
    the model. -/
theorem points_perm : (Gridding.points sources).Perm (Gridding.points grouped.toList
    ++ (Report.clustersOf grouped.toList).flatMap Cluster.members) := by
  rcases h.collapsing with ⟨created, hcreated, hclusters⟩
  exact hcreated.points.trans ((hclusters.symm.flatMap_right _).append_left _)

theorem length_eq : sources.length = model.entries.length := by
  rcases model.build_ok sources h.build with ⟨hpoints, hids⟩
  rw [hpoints, List.length_map, ← List.length_map SourceEntry.id, ← hids, List.length_map]

/-- The members of all sources that are left are as many as the model has sources. -/
theorem sum_memberCount : (grouped.toList.map Source.memberCount).sum = model.entries.length := by
  rcases h.collapsing with ⟨created, hcreated, _⟩
  have hcount : ∀ s : Source Float, s.memberCount = s.leaves.length := by
    intro s
    cases s with
    | point s => rfl
    | cluster c => exact (List.length_map _).symm
    | other o => rfl
  have hleaves : sources.flatMap Source.leaves = sources := by
    rw [(model.build_ok sources h.build).1, List.flatMap_map]
    exact List.map_eq_flatMap.symm
  have hlength := hcreated.leaves_perm.length_eq
  rw [hleaves, List.length_flatMap] at hlength
  rw [← h.length_eq, ← hlength]
  exact congrArg List.sum (List.map_congr_left fun s _ => hcount s)

/-- What collapsing writes. -/
theorem run_collapse (path : String) (json : Bool) :
    ((Request.collapse spacing json).run path contents).failure = none ∧
    ((Request.collapse spacing json).run path contents).output =
      if json then Report.clusterLines grouped
      else Report.collapse model.entries.length grouped := by
  rw [← h.length_eq]
  simp only [Request.run, h.load, h.build, Request.answer, Request.collapseSources, h.pass,
    and_self]

end Collapses

namespace Gridding

variable {α : Type} [Scalar α]

section Pair

variable (p q : PointSource α) (hgroup : q.group = p.group)

include hgroup

omit [Scalar α] in
theorem group_pair : ∀ s ∈ [Source.point p, .point q], s.group = p.group := by
  rw [List.forall_mem_cons, List.forall_mem_singleton]
  exact ⟨rfl, hgroup⟩

omit [Scalar α] in
theorem splitByGroup_pair : splitByGroup [.point p, .point q] = [[.point p, .point q]] := by
  simp only [splitByGroup, List.foldl_cons, List.foldl_nil, Source.group, hgroup, Grouped.append,
    lt_self_iff_false, if_false, if_true, List.map_cons, List.map_nil, List.singleton_append]

/-- Without a grid two point sources of one group are left as they are. -/
theorem gridGroups_pair_of_none (spacing : Option α) (h : ∀ km, spacing = some km → ¬ 0.0 < km) :
    gridGroups (splitByGroup [.point p, .point q]) spacing
      = .ok [(p.group, [.point p, .point q])] := by
  rw [splitByGroup_pair p q hgroup, gridGroups, passes,
    gridSources_of_none _ p.group (List.cons_ne_nil _ _) (group_pair p q hgroup) spacing 0 h]
  rfl

/-- On a grid, two uniform ones at one place become one cluster. -/
theorem gridGroups_pair (km : α) (hkm : 0.0 < km)
    (hplace : q.location.longitude = p.location.longitude ∧
      q.location.latitude = p.location.latitude)
    (hgrid : Griddable km [p, q]) (huniform : Uniform [p, q]) :
    ∃ c : Cluster α, gridGroups (splitByGroup [.point p, .point q]) (some km)
        = .ok [(p.group, [.cluster c])] ∧ c.members = [p, q] ∧ c.id = clusterId 0 0 := by
  have hpoints : points [Source.point p, .point q] = [p, q] := rfl
  rcases gridPoints_pair km p q hplace 0 hgrid huniform with ⟨c, hc, hcluster⟩
  refine ⟨c, ?_, hcluster⟩
  rw [splitByGroup_pair p q hgroup, gridGroups, passes,
    gridSources_of_many _ p.group (List.cons_ne_nil _ _) (group_pair p q hgroup) km hkm 0
      (le_refl 2), hpoints, hc]
  rfl

end Pair

end Gridding

/-- The text of the entry of a source at the origin. -/
def originText (id : String) : String :=
  "\x7b\"source_id\":\"" ++ id ++ "\",\"name\":\"\",\"tectonic_region_type\":\"\","
    ++ "\"grp_id\":0,\"trt_smr\":0,\"msr\":\"PointMSR\",\"rupture_aspect_ratio\":1,"
    ++ "\"mfd\":\x7b\"kind\":\"arbitrary\",\"magnitudes\":[5],\"occurrence_rates\":[1]\x7d,"
    ++ "\"upper_seismogenic_depth\":0,\"lower_seismogenic_depth\":9,"
    ++ "\"location\":\x7b\"lon\":0,\"lat\":0\x7d,\"nodal_plane_distribution\":"
    ++ "[\x7b\"probability\":1,\"strike\":0,\"dip\":9,\"rake\":0\x7d],"
    ++ "\"hypocenter_distribution\":[\x7b\"probability\":1,\"depth\":5\x7d]\x7d"

/-- A model of two sources at the origin, and a grid of 10 km. -/
def pairText : String :=
  "\x7b\"model_name\":\"pair\",\"ps_grid_spacing\":10,\"sources\":["
    ++ originText "a" ++ "," ++ originText "b" ++ "]\x7d"

/-- Two sources `a` and `b` of one group at the origin that can become a cluster. Each has one
    rupture. -/
structure OriginPair (p q : PointSource Float) : Prop where
  ids : p.id = "a" ∧ q.id = "b"
  counts : p.countRuptures = 1 ∧ q.countRuptures = 1
  groups : p.group = 0 ∧ q.group = 0
  first : p.location.longitude = 0.0 ∧ p.location.latitude = 0.0
  second : q.location.longitude = 0.0 ∧ q.location.latitude = 0.0
  alike : p.Agrees p ∧ p.Agrees q

/-- The model has such a pair of sources, and a grid of 10 km. -/
def SourceModel.isPair (model : SourceModel Float) : Bool :=
  match model.build, model.positiveSpacing? with
  | .ok [.point p, .point q], some km =>
    decide (km = 10.0 ∧ (p.id = "a" ∧ q.id = "b") ∧
      (p.countRuptures = 1 ∧ q.countRuptures = 1) ∧ (p.group = 0 ∧ q.group = 0) ∧
      (p.location.longitude = 0.0 ∧ p.location.latitude = 0.0) ∧
      (q.location.longitude = 0.0 ∧ q.location.latitude = 0.0) ∧
      (p.occurrence == p.occurrence) = true ∧
      q.region = p.region ∧ q.scaling = p.scaling ∧ (q.occurrence == p.occurrence) = true)
  | _, _ => false

theorem eq_ofList_append {s t : String} {as bs : List Char} (hs : s = String.ofList as)
    (ht : t = String.ofList bs) : s ++ t = String.ofList (as ++ bs) := by
  rw [hs, ht, String.ofList_append]

/-- Scanning a text that is given by its characters. -/
theorem scan_ofList {s : String} {cs : List Char} (h : s = String.ofList cs) :
    Json.scan s = Json.scanValue (2 * cs.length + 2) 0 cs := by
  rw [Json.scan, h, String.toList_ofList]

theorem isPair_load : (match SourceModel.load (.ok pairText) with
    | .ok model => model.isPair
    | .error _ => false) = true := by
  -- The characters are taken from the pieces of the text first: to decode the text
  -- while it is scanned would take much longer.
  have hscan := @scan_ofList pairText _ (by
    unfold pairText originText
    repeat' first | apply eq_ofList_append | exact rfl)
  rw [SourceModel.load, Json.Codec.parse, hscan]
  decide +kernel

/-- The text holds a model of two sources at one place. -/
theorem load_pair : ∃ (model : SourceModel Float) (p q : PointSource Float),
    SourceModel.load (.ok pairText) = .ok model ∧ model.build = .ok [.point p, .point q] ∧
    model.entries.map SourceEntry.id = ["a", "b"] ∧ model.positiveSpacing? = some 10.0 ∧
    OriginPair p q := by
  have hpair := isPair_load
  cases hload : SourceModel.load (.ok pairText) with
  | error error =>
      rw [hload] at hpair
      exact absurd hpair Bool.false_ne_true
  | ok model =>
      simp only [hload, SourceModel.isPair] at hpair
      split at hpair
      · rename_i p q km hbuild hspacing
        rcases of_decide_eq_true hpair with
          ⟨hkm, hids, hcounts, hgroups, hfirst, hsecond, hself, hregion, hscaling, hoccurrence⟩
        have hnames : model.entries.map SourceEntry.id = ["a", "b"] := by
          rw [← (model.build_ok _ hbuild).2, ← hids.1, ← hids.2]
          rfl
        exact ⟨model, p, q, rfl, hbuild, hnames, hkm ▸ hspacing,
          { ids := hids
            counts := hcounts
            groups := hgroups
            first := hfirst
            second := hsecond
            alike := ⟨⟨rfl, rfl, hself⟩, hregion, hscaling, hoccurrence⟩ }⟩
      · exact absurd hpair Bool.false_ne_true

/-- If the cosine of zero is one, the two sources become one cluster. -/
theorem Collapses.exists_pair (hcos : Float.cos 0.0 = 1.0) :
    ∃ (model : SourceModel Float) (p q : PointSource Float) (c : Cluster Float),
      Collapses (.ok pairText) none model [.point p, .point q] [(0, [.cluster c])] ∧
      model.entries.map SourceEntry.id = ["a", "b"] ∧ c.members = [p, q] ∧ c.id = "cps-0-0" ∧
      OriginPair p q := by
  rcases load_pair with ⟨model, p, q, hload, hbuild, hids, hspacing, hpair⟩
  have hplace : q.location.longitude = p.location.longitude ∧
      q.location.latitude = p.location.latitude :=
    ⟨hpair.second.1.trans hpair.first.1.symm, hpair.second.2.trans hpair.first.2.symm⟩
  have huniform : Gridding.Uniform [p, q] := (Gridding.uniform_pair_iff p q).mpr hpair.alike
  rcases Gridding.gridGroups_pair p q (hpair.groups.2.trans hpair.groups.1.symm) 10.0 (by decide)
    hplace (Gridding.griddable_origin hcos p q hpair.first hpair.second) huniform with
    ⟨c, hpass, hmembers, hid⟩
  have hname : Gridding.clusterId 0 0 = "cps-0-0" := by decide
  rw [hpair.groups.1] at hpass
  refine ⟨model, p, q, c, ⟨hload, hbuild, ?_⟩, hids, hmembers, hid.trans hname, hpair⟩
  rw [Option.none_or, hspacing]
  exact hpass

/-- The two ways in which the outcome of collapsing is written agree, and lose nothing.

    The ids of the clusters are distinct. The table has a line of text for each row, and a
    row for each source that is left, under its group. A line tells the group, the id, the
    kind and the number of members of its row. Below the lines stand the number of the sources
    and the number of the lines; the members on all rows add up to the number of the sources.

    The object is read back from its lines. It has distinct keys, and they are the ids on the
    rows of clusters; under each stand as many ids of members as its row tells. These ids,
    together with those on the rows of point sources, are the ids of the sources of the
    model. -/
theorem collapse_modes_agree (path : String) (contents : Except FileFault String)
    (spacing : Option Float) (model : SourceModel Float) (sources : List (Source Float))
    (grouped : Grouped (Source Float)) (h : Collapses contents spacing model sources grouped) :
    ((Report.clustersOf grouped.toList).map Cluster.id).Nodup ∧
    ∃ (rows : List CollapseRow) (lines : List String) (entries : List (String × List String)),
      ((Request.collapse spacing false).run path contents).failure = none ∧
      ((Request.collapse spacing false).run path contents).output =
        lines.map .text
          ++ [.text (toString model.entries.length ++ " sources -> " ++ toString lines.length
            ++ " sources")] ∧
      List.Forall₂ Report.Tells rows lines ∧
      rows.map (fun row => (row.group, row.id, row.kind, row.members))
        = grouped.flatMap (fun e => e.2.map fun s => (e.1, s.id, s.kind, s.memberCount)) ∧
      (rows.map CollapseRow.members).sum = model.entries.length ∧
      ((Request.collapse spacing true).run path contents).failure = none ∧
      ((Request.collapse spacing true).run path contents).output =
        (Report.clusterObject entries).renderLines.map .text ∧
      Json.read? ("\n".intercalate (Report.clusterObject entries).renderLines)
        = some (Report.clusterObject entries) ∧
      (entries.map Prod.fst).Nodup ∧
      (entries.map fun e => (e.1, e.2.length)).Perm
        ((rows.filter fun row => row.kind == "collapsed").map fun row => (row.id, row.members)) ∧
      (entries.flatMap Prod.snd
        ++ (rows.filter fun row => row.kind == "point").map CollapseRow.id).Perm
          (model.entries.map SourceEntry.id) := by
  have hentries := Report.clusters_perm grouped h.clusterIds_nodup
  have hmembers : ∀ cs : List (Cluster Float), (cs.map Report.clusterEntry).flatMap Prod.snd
      = (cs.flatMap Cluster.members).map fun s => s.id := by
    intro cs
    rw [List.flatMap_map, List.map_flatMap]
    rfl
  refine ⟨h.clusterIds_nodup, Report.collapseRows grouped,
    (Report.collapseRows grouped).map Report.collapseText, Report.clusters grouped,
    (h.run_collapse path false).1, ?_, Report.forall₂_tells _, ?_, ?_,
    (h.run_collapse path true).1, (h.run_collapse path true).2, Report.read?_clusterObject _,
    ?_, ?_, ?_⟩
  · rw [(h.run_collapse path false).2, List.map_map, List.length_map]
    rfl
  · rw [Report.collapseRows, List.map_flatMap]
    refine List.flatMap_congr fun e _ => ?_
    rw [List.map_map]
    rfl
  · rw [Report.members_collapseRows]
    exact h.sum_memberCount
  · -- Sorting the entries loses none of them, because no two clusters share an id.
    rw [(hentries.map Prod.fst).nodup_iff, List.map_map]
    exact h.clusterIds_nodup
  · rw [Report.clusters_collapseRows]
    have hcounts := hentries.map fun e => (e.1, e.2.length)
    rw [List.map_map] at hcounts
    refine hcounts.trans (List.Perm.of_eq (List.map_congr_left fun c _ => ?_))
    exact congrArg (c.id, ·) (List.length_map _)
  · -- A source of the model is left as it is, or it is a member of one cluster.
    rw [Report.points_collapseRows, ← (model.build_ok sources h.build).2]
    have hpoints := h.points_perm.map fun s => s.id
    rw [List.map_append, ← hmembers] at hpoints
    exact ((hentries.flatMap_right _).append_right _).trans
      (List.perm_append_comm.trans hpoints.symm)

/-- Without a grid two sources at one place both have a line. On a grid, if the cosine of zero
    is one, there is one line for the cluster of the two, and one entry with their ids. -/
theorem collapse_modes_agree_pair :
    (∃ (lines : List String) (wkt wkt' : String),
      ((Request.collapse (some 0.0) false).run "pair" (.ok pairText)).output
        = lines.map .text ++ [.text "2 sources -> 2 sources"] ∧
      List.Forall₂ Report.Tells [⟨0, "a", "point", 1, wkt⟩, ⟨0, "b", "point", 1, wkt'⟩] lines) ∧
    (Float.cos 0.0 = 1.0 →
      (∃ line wkt : String,
        ((Request.collapse none false).run "pair" (.ok pairText)).output
          = [.text line, .text "2 sources -> 1 sources"] ∧
        Report.Tells ⟨0, "cps-0-0", "collapsed", 2, wkt⟩ line) ∧
      ∃ (texts : List String) (members : List String),
        ((Request.collapse none true).run "pair" (.ok pairText)).output = texts.map .text ∧
        Json.read? ("\n".intercalate texts)
          = some (Report.clusterObject [("cps-0-0", members)]) ∧
        members.Perm ["a", "b"]) := by
  refine ⟨?_, fun hcos => ?_⟩
  · rcases load_pair with ⟨model, p, q, hload, hbuild, hids, _, hpair⟩
    -- The spacing that is asked for takes the place of that of the model, and lays out no grid.
    have hnone : ∀ km : Float, (some 0.0 : Option Float) = some km → ¬ 0.0 < km := by
      intro km h
      rw [← Option.some.inj h]
      decide
    have hpass := Gridding.gridGroups_pair_of_none p q
      (hpair.groups.2.trans hpair.groups.1.symm) (some 0.0) hnone
    rcases collapse_modes_agree "pair" _ (some 0.0) model _ _ ⟨hload, hbuild, hpass⟩ with
      ⟨_, rows, lines, _, _, htable, htells, hrows, _⟩
    have hrows : rows.map (fun row => (row.group, row.id, row.kind, row.members))
        = [(0, "a", "point", 1), (0, "b", "point", 1)] := by
      rw [hrows, ← hpair.groups.1, ← hpair.ids.1, ← hpair.ids.2]
      rfl
    rcases List.map_eq_cons_iff.mp hrows with ⟨row, rest, rfl, hfirst, hrest⟩
    rcases List.map_eq_singleton_iff.mp hrest with ⟨row', rfl, hsecond⟩
    have hlast : toString 2 ++ " sources -> " ++ toString 2 ++ " sources"
        = "2 sources -> 2 sources" := by decide
    rw [← List.length_map SourceEntry.id, hids, ← htells.length_eq] at htable
    rw [Report.row_eq hfirst, Report.row_eq hsecond] at htells
    exact ⟨lines, row.wkt, row'.wkt, htable.trans (by rw [← hlast]; rfl), htells⟩
  · rcases Collapses.exists_pair hcos with ⟨model, p, q, c, h, hids, hmembers, hid, _⟩
    rcases collapse_modes_agree "pair" _ none model _ _ h with
      ⟨_, rows, lines, entries, _, htable, htells, hrows, _, _, hobject, hread, _, hcounts, hall⟩
    -- The only row is that of the cluster.
    have hrows : rows.map (fun row => (row.group, row.id, row.kind, row.members))
        = [(0, "cps-0-0", "collapsed", 2)] := by
      rw [hrows, ← hid]
      change [(0, c.id, "collapsed", c.members.length)] = _
      rw [hmembers]
      rfl
    rcases List.map_eq_singleton_iff.mp hrows with ⟨row, rfl, hrow⟩
    rw [Report.row_eq hrow] at htells hcounts hall
    constructor
    · rcases List.forall₂_cons_left_iff.mp htells with ⟨line, rest, htold, hnil, rfl⟩
      rw [List.forall₂_nil_left_iff.mp hnil, ← List.length_map SourceEntry.id, hids] at htable
      have hlast : toString 2 ++ " sources -> " ++ toString 1 ++ " sources"
          = "2 sources -> 1 sources" := by decide
      exact ⟨line, row.wkt, htable.trans (by rw [← hlast]; rfl), htold⟩
    · -- So there is one entry, and no row of a point source takes any of the ids.
      rcases List.map_eq_singleton_iff.mp (List.perm_singleton.mp hcounts) with
        ⟨entry, rfl, hentry⟩
      rw [Prod.mk.injEq] at hentry
      have hkey : entry = ("cps-0-0", entry.2) := Prod.ext hentry.1 rfl
      have hnone : [CollapseRow.mk 0 "cps-0-0" "collapsed" 2 row.wkt].filter
          (fun row => row.kind == "point") = [] := rfl
      rw [hids, hnone, List.map_nil, List.append_nil, List.flatMap_singleton] at hall
      exact ⟨_, entry.2, hobject, hkey ▸ hread, hall⟩

end Seismicity
