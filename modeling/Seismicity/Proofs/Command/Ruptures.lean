import Seismicity.Proofs.Command.Collapse
import Seismicity.Proofs.Source.Enumeration

/-!
# The Ruptures of a Cluster

Asked for the ruptures of a cluster, the program writes those of its members.

The request for a source looks its id up among the sources of the model first, and
collapses them only if none has it. So the cluster is made again, along another way
than the one on which its id was printed, and the two ways have to use the same
spacing. Once it is there, it has to be found: an id of a cluster belongs to one
cluster only, and to no source that is left if the model has none of that name. The
members are sources of the model, unaltered, and with distinct ids each of them is
what its own id leads to.

## Theorems

* `find?_eq_some_of_unique`: The source that is looked up.
* `Request.writeRuptures_of_found`: What is written for a source that is found.
* `Collapses.run_ruptures_of_point`, `Collapses.run_ruptures_of_cluster`: The
  requests for a source of the model and for a cluster.
* `ruptures_of_cluster`: The ruptures of a cluster are those of its members.
-/

namespace Seismicity

/-- A source is found by its id if no other one has it. -/
theorem find?_eq_some_of_unique {α : Type} (sources : List (Source α)) (s : Source α)
    (hs : s ∈ sources) (hunique : ∀ t ∈ sources, t.id = s.id → t = s) :
    (sources.find? fun t => t.id == s.id) = some s := by
  cases hfind : sources.find? fun t => t.id == s.id with
  | none =>
      have hnone := List.find?_eq_none.mp hfind s hs
      rw [beq_self_eq_true] at hnone
      exact absurd rfl hnone
  | some t =>
      have hid := List.find?_some hfind
      rw [beq_iff_eq] at hid
      rw [hunique t (List.mem_of_find?_eq_some hfind) hid]

/-- What is written for a source that is found. -/
theorem Request.writeRuptures_of_found (id : String) (options : RuptureOptions Float)
    (averaged : Bool) (limit : Option Nat) (model : SourceModel Float)
    (sources found : List (Source Float)) (source : Source Float) (p : PointLike Float)
    (hpool : (pool id model sources).2 = .ok found)
    (hfind : (found.find? fun source => source.id == id) = some source)
    (hp : source.pointLike? = some p) :
    (writeRuptures id options averaged limit model sources).failure = none ∧
    (writeRuptures id options averaged limit model sources).output
      = (selectRuptures p options averaged limit).map .rupture := by
  simp only [writeRuptures, hpool, hfind, hp, and_self]

namespace Collapses

variable {contents : Except FileFault String} {model : SourceModel Float}
  {sources : List (Source Float)} {grouped : Grouped (Source Float)}

theorem run_eq {spacing : Option Float} (h : Collapses contents spacing model sources grouped)
    (path : String) (request : Request) :
    (request.run path contents).output = (request.answer model sources).output ∧
      (request.run path contents).failure = (request.answer model sources).failure := by
  simp only [Request.run, h.load, h.build, and_self]

variable (h : Collapses contents none model sources grouped) (path : String)
  (options : RuptureOptions Float) (limit : Option Nat)

include h

theorem mem_ids_iff (id : String) :
    id ∈ model.entries.map SourceEntry.id ↔ ∃ s ∈ Gridding.points sources, s.id = id := by
  rw [← (model.build_ok sources h.build).2, List.mem_map]

/-- The request for a source of the model. -/
theorem run_ruptures_of_point (hids : (model.entries.map SourceEntry.id).Nodup)
    (s : PointSource Float) (hs : s ∈ Gridding.points sources) :
    ((Request.ruptures s.id options false limit).run path contents).failure = none ∧
    ((Request.ruptures s.id options false limit).run path contents).output
      = (Request.selectRuptures (.single s) options false limit).map .rupture := by
  rcases model.build_ok sources h.build with ⟨hpoints, hnames⟩
  have hmem : Source.point s ∈ sources := Gridding.mem_of_mem_points sources s hs
  have hunique : ∀ t ∈ sources, t.id = (Source.point s).id → t = .point s := by
    intro t ht hid
    rw [hpoints, List.mem_map] at ht
    rcases ht with ⟨t, ht, heq⟩
    rw [← heq] at hid ⊢
    rw [← hnames] at hids
    exact congrArg _ (List.inj_on_of_nodup_map hids ht hs hid)
  have hknown : (sources.any fun source => source.id == s.id) = true :=
    List.any_eq_true.mpr ⟨_, hmem, beq_self_eq_true s.id⟩
  have hpool : (Request.pool s.id model sources).2 = .ok sources := by
    rw [Request.pool, if_pos hknown]
  rw [(h.run_eq path _).1, (h.run_eq path _).2]
  exact Request.writeRuptures_of_found s.id options false limit model sources sources _ _ hpool
    (find?_eq_some_of_unique sources (.point s) hmem hunique) rfl

/-- The request for a cluster that no source of the model is named like. -/
theorem run_ruptures_of_cluster (c : Cluster Float) (hc : c ∈ Report.clustersOf grouped.toList)
    (hother : c.id ∉ model.entries.map SourceEntry.id) :
    ((Request.ruptures c.id options false limit).run path contents).failure = none ∧
    ((Request.ruptures c.id options false limit).run path contents).output
      = (Request.selectRuptures (.clustered c) options false limit).map .rupture := by
  rw [h.mem_ids_iff] at hother
  have hunique : ∀ t ∈ grouped.toList, t.id = (Source.cluster c).id → t = .cluster c := by
    intro t ht hid
    cases t with
    | point s =>
        -- The point sources that are left are sources of the model.
        have hs : s ∈ Gridding.points sources := by
          rw [h.points_perm.mem_iff]
          exact List.mem_append_left _ (List.mem_filterMap.mpr ⟨_, ht, rfl⟩)
        exact absurd ⟨s, hs, hid⟩ hother
    | cluster d =>
        have hd : d ∈ Report.clustersOf grouped.toList := (Report.mem_clustersOf_iff _ d).mpr ht
        exact congrArg _ (List.inj_on_of_nodup_map h.clusterIds_nodup hd hc hid)
    | other o => exact absurd ht (h.other_notMem o)
  have hunknown : ¬ (sources.any fun source => source.id == c.id) = true := by
    rw [List.any_eq_true]
    rintro ⟨t, ht, hid⟩
    rw [(model.build_ok sources h.build).1, List.mem_map] at ht
    rcases ht with ⟨s, hs, heq⟩
    rw [← heq] at hid
    exact hother ⟨s, hs, eq_of_beq hid⟩
  have hpool : (Request.pool c.id model sources).2 = .ok grouped.toList := by
    have hpass := h.pass
    rw [Option.none_or] at hpass
    rw [Request.pool, if_neg hunknown]
    simp only [Request.collapseSources, hpass, Except.map]
  rw [(h.run_eq path _).1, (h.run_eq path _).2]
  exact Request.writeRuptures_of_found c.id options false limit model sources _ _ _ hpool
    (find?_eq_some_of_unique grouped.toList (.cluster c)
      ((Report.mem_clustersOf_iff _ c).mp hc) hunique)
    rfl

/-- The members of a cluster are sources of the model. -/
theorem mem_points_of_member (c : Cluster Float) (hc : c ∈ Report.clustersOf grouped.toList)
    (s : PointSource Float) (hs : s ∈ c.members) : s ∈ Gridding.points sources := by
  rw [h.points_perm.mem_iff]
  exact List.mem_append_right _ (List.mem_flatMap.mpr ⟨c, hc, hs⟩)

/-- The lines for a cluster are those for its members, one after the other. -/
theorem run_ruptures_of_members (hids : (model.entries.map SourceEntry.id).Nodup)
    (c : Cluster Float) (hc : c ∈ Report.clustersOf grouped.toList) :
    (c.members.map fun s => s.id).flatMap
        (fun m => ((Request.ruptures m options false none).run path contents).output)
      = (c.ruptures options).map .rupture := by
  rw [List.flatMap_map, Cluster.ruptures, List.map_flatMap]
  refine List.flatMap_congr fun s hs => ?_
  exact (h.run_ruptures_of_point path options none hids s (h.mem_points_of_member c hc s hs)).2

end Collapses

/-- Asked for the ruptures of a cluster, the program writes those of its members.

    Take a model whose sources have distinct ids and can be collapsed by its own
    spacing, and a row of the outcome that is the row of a cluster. Unless a source of
    the model has the same id, the request for the ruptures of the cluster succeeds, as
    do the requests for its members, and whatever the options, it writes the lines for
    one member after the other. With a limit it writes the first of these lines. -/
theorem ruptures_of_cluster (path : String) (contents : Except FileFault String)
    (model : SourceModel Float) (sources : List (Source Float)) (grouped : Grouped (Source Float))
    (h : Collapses contents none model sources grouped)
    (hids : (model.entries.map SourceEntry.id).Nodup) (row : CollapseRow)
    (hrow : row ∈ Report.collapseRows grouped) (hkind : row.kind = "collapsed")
    (hother : row.id ∉ model.entries.map SourceEntry.id) (options : RuptureOptions Float) :
    ∃ members : List String, (row.id, members) ∈ Report.clusters grouped ∧
      members.length = row.members ∧
      (∀ m ∈ members, ((Request.ruptures m options false none).run path contents).failure = none) ∧
      ((Request.ruptures row.id options false none).run path contents).failure = none ∧
      ((Request.ruptures row.id options false none).run path contents).output =
        members.flatMap
          (fun m => ((Request.ruptures m options false none).run path contents).output) ∧
      ∀ n, ((Request.ruptures row.id options false (some n)).run path contents).failure = none ∧
        ((Request.ruptures row.id options false (some n)).run path contents).output =
          (members.flatMap fun m =>
            ((Request.ruptures m options false none).run path contents).output).take n := by
  rcases Report.exists_cluster_of_row grouped row hrow hkind with ⟨c, hc, hid, hcount⟩
  have hlines := h.run_ruptures_of_members path options hids c hc
  rw [← hid] at hother ⊢
  refine ⟨c.members.map fun s => s.id, ?_, ?_, ?_, ?_, ?_, fun n => ⟨?_, ?_⟩⟩
  · rw [(Report.clusters_perm grouped h.clusterIds_nodup).mem_iff]
    exact List.mem_map_of_mem hc
  · rw [List.length_map, hcount]
  · rw [List.forall_mem_map]
    intro s hs
    exact (h.run_ruptures_of_point path options none hids s (h.mem_points_of_member c hc s hs)).1
  · exact (h.run_ruptures_of_cluster path options none c hc hother).1
  · rw [hlines]
    exact (h.run_ruptures_of_cluster path options none c hc hother).2
  · exact (h.run_ruptures_of_cluster path options (some n) c hc hother).1
  · rw [hlines, ← List.map_take]
    exact (h.run_ruptures_of_cluster path options (some n) c hc hother).2

/-- The model of two sources at one place is read, and no source is named like their cluster. If
    the cosine of zero is one, the cluster is there, and it has two ruptures, that of the one source
    and that of the other. A limit of one leaves the first. -/
theorem ruptures_of_cluster_pair :
    (∃ model, SourceModel.load (.ok pairText) = .ok model ∧
      model.entries.map SourceEntry.id = ["a", "b"]) ∧
    (Float.cos 0.0 = 1.0 → ∃ first second : Line,
      ((Request.ruptures "a" { magnitude := none, asPoint := false, shift := true } false none).run
        "pair" (.ok pairText)).output = [first] ∧
      ((Request.ruptures "b" { magnitude := none, asPoint := false, shift := true } false none).run
        "pair" (.ok pairText)).output = [second] ∧
      ((Request.ruptures "cps-0-0" { magnitude := none, asPoint := false, shift := true } false
        none).run "pair" (.ok pairText)).output = [first, second] ∧
      ((Request.ruptures "cps-0-0" { magnitude := none, asPoint := false, shift := true } false
        (some 1)).run "pair" (.ok pairText)).output = [first]) := by
  constructor
  · rcases load_pair with ⟨model, _, _, hload, _, hids, _⟩
    exact ⟨model, hload, hids⟩
  intro hcos
  rcases Collapses.exists_pair hcos with ⟨model, p, q, c, h, hids, hmembers, hid, hpair⟩
  have hnodup : (model.entries.map SourceEntry.id).Nodup := by
    rw [hids]
    decide
  have hother : c.id ∉ model.entries.map SourceEntry.id := by
    rw [hids, hid]
    decide
  -- The lines of the two sources: each has one rupture.
  have hline : ∀ s ∈ [p, q], s.countRuptures = 1 → ∃ line, ((Request.ruptures s.id
      { magnitude := none, asPoint := false, shift := true } false none).run "pair"
        (.ok pairText)).output = [line] := by
    intro s hs hcount
    rw [(h.run_ruptures_of_point "pair" _ none hnodup s hs).2]
    refine List.length_eq_one_iff.mp ?_
    rw [List.length_map]
    exact (s.length_ruptures false true).trans hcount
  rcases hline p List.mem_cons_self hpair.counts.1 with ⟨first, hfirst⟩
  rcases hline q (List.mem_cons_of_mem _ List.mem_cons_self) hpair.counts.2 with ⟨second, hsecond⟩
  rw [hpair.ids.1] at hfirst
  rw [hpair.ids.2] at hsecond
  refine ⟨first, second, hfirst, hsecond, ?_⟩
  have hrow : Report.collapseRow 0 (.cluster c) ∈ Report.collapseRows [(0, [.cluster c])] :=
    List.mem_singleton_self _
  rcases ruptures_of_cluster "pair" _ model _ _ h hnodup _ hrow rfl hother
    { magnitude := none, asPoint := false, shift := true } with
    ⟨members, hentry, _, _, _, hall, hlimit⟩
  -- The members that are printed can only be the two sources.
  have hclusters : Report.clusters [(0, [.cluster c])] = [(c.id, ["a", "b"])] := by
    rw [← hpair.ids.1, ← hpair.ids.2]
    change [(c.id, c.members.map fun s => s.id)] = _
    rw [hmembers]
    rfl
  rw [hclusters, List.mem_singleton, Prod.mk.injEq] at hentry
  have hlines := (hlimit 1).2
  rw [hentry.2, List.flatMap_cons, List.flatMap_singleton, hfirst, hsecond] at hall hlines
  rw [← hid]
  exact ⟨hall, hlines⟩

end Seismicity
