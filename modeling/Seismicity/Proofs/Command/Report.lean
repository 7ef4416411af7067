import Seismicity.Command.Report
import Seismicity.Proofs.Gridding.Runs
import Seismicity.Proofs.Json.Scanning

/-!
# The Rows and Entries of a Report

What the outcome of collapsing tells of the sources that are left.

As a table, each source that is left has a row. As an object, the clusters alone
have an entry each, under their ids, and a later entry takes the place of an
earlier one with the same id. So the object is complete if no two clusters have the
same id. Both are read off here: the entries up to their order, which is that of
the keys, and the rows in theirs.

A row is written in columns. What a line of text has to look like to tell a row is
said without the function that writes it (`Report.Tells`), and the line that is
written is the only one that does.

## Main definitions

* `Report.clusterEntry`, `Report.clusterObject`: The entry of a cluster, and the object of
  some entries.
* `Report.Fills`: A text fills a column.
* `Report.Tells`: A line of the table tells a row.

## Theorems

* `Report.insertSorted_perm`, `Report.clusters_perm`: The entries of clusters.
* `Report.mem_clustersOf_iff`, `Report.clustersOf_others`, `Report.clusterIds_sublist`: The
  clusters among sources.
* `Report.members_collapseRows`, `Report.points_collapseRows`,
  `Report.clusters_collapseRows`: What the rows tell.
* `Report.fills_iff`, `Report.tells_iff`: What is written in a column and in a line.
* `Report.read?_clusterObject`: The object is read back from its lines.
-/

namespace Seismicity

namespace Report

/-- An entry with a new key is added. -/
theorem insertSorted_perm {β : Type} (key : String) (x : β) (entries : List (String × β))
    (h : key ∉ entries.map Prod.fst) :
    (insertSorted key x entries).Perm ((key, x) :: entries) := by
  induction entries with
  | nil => exact List.Perm.refl _
  | cons entry rest ih =>
      rw [List.map_cons, List.mem_cons, not_or] at h
      rw [insertSorted]
      by_cases hlt : key < entry.1
      · rw [if_pos hlt]
      · rw [if_neg hlt, if_neg h.1]
        exact ((ih h.2).cons entry).trans (List.Perm.swap _ _ _)

/-- The entry of a cluster: its id, and the ids of its members. -/
def clusterEntry (c : Cluster Float) : String × List String :=
  (c.id, c.members.map fun s => s.id)

theorem foldl_insertSorted_perm (cs : List (Cluster Float)) :
    ∀ entries : List (String × List String),
    (entries.map Prod.fst ++ cs.map Cluster.id).Nodup →
    (cs.foldl (fun entries c => insertSorted c.id (c.members.map fun s => s.id) entries)
      entries).Perm (entries ++ cs.map clusterEntry) := by
  induction cs with
  | nil =>
      intro entries _
      rw [List.foldl_nil, List.map_nil, List.append_nil]
  | cons c rest ih =>
      intro entries h
      rw [List.map_cons] at h
      have hnew : c.id ∉ entries.map Prod.fst := by
        intro hmem
        exact (List.nodup_append.mp h).2.2 _ hmem _ List.mem_cons_self rfl
      have hinsert : (insertSorted c.id (c.members.map fun s => s.id) entries).Perm
          (clusterEntry c :: entries) := insertSorted_perm c.id _ entries hnew
      have hkeys : ((insertSorted c.id (c.members.map fun s => s.id) entries).map Prod.fst
          ++ rest.map Cluster.id).Nodup := by
        refine (List.Perm.nodup_iff ?_).mp h
        exact List.perm_middle.trans ((hinsert.map Prod.fst).symm.append_right _)
      rw [List.foldl_cons, List.map_cons]
      calc
        List.Perm _ _ := ih _ hkeys
        List.Perm _ (clusterEntry c :: entries ++ rest.map clusterEntry) := hinsert.append_right _
        List.Perm _ _ := List.perm_middle.symm

/-- With distinct ids, each cluster has an entry. -/
theorem clusters_perm (grouped : Grouped (Source Float))
    (h : ((clustersOf grouped.toList).map Cluster.id).Nodup) :
    (clusters grouped).Perm ((clustersOf grouped.toList).map clusterEntry) :=
  foldl_insertSorted_perm _ [] h

theorem clustersOf_map_cluster (cs : List (Cluster Float)) :
    clustersOf (cs.map .cluster) = cs := by
  rw [clustersOf, List.filterMap_map]
  exact List.filterMap_some

theorem mem_clustersOf_iff (sources : List (Source Float)) (c : Cluster Float) :
    c ∈ clustersOf sources ↔ .cluster c ∈ sources := by
  rw [clustersOf, List.mem_filterMap]
  constructor
  · rintro ⟨s, hs, heq⟩
    cases s with
    | point s => exact absurd heq (by simp only [reduceCtorEq, not_false_eq_true])
    | cluster d =>
        rw [← Option.some.inj heq]
        exact hs
    | other o => exact absurd heq (by simp only [reduceCtorEq, not_false_eq_true])
  · intro h
    exact ⟨_, h, rfl⟩

/-- Clusters are among the sources that are no point sources. -/
theorem clustersOf_others (sources : List (Source Float)) :
    clustersOf (Gridding.others sources) = clustersOf sources := by
  induction sources with
  | nil => rfl
  | cons s rest ih =>
      cases s with
      | point s => exact ih
      | cluster c => exact congrArg (c :: ·) ih
      | other o => exact ih

theorem clusterIds_sublist (sources : List (Source Float)) :
    ((clustersOf sources).map Cluster.id).Sublist ((Gridding.others sources).map Source.id) := by
  induction sources with
  | nil => exact List.Sublist.refl _
  | cons s rest ih =>
      cases s with
      | point s => exact ih
      | cluster c => exact ih.cons_cons c.id
      | other o => exact ih.cons o.id

/-- The rows are those of the sources that are left, with the groups under which they
    stand. -/
theorem exists_tagged (grouped : Grouped (Source Float)) :
    ∃ tagged : List (Nat × Source Float),
      collapseRows grouped = tagged.map (fun e => collapseRow e.1 e.2) ∧
        grouped.toList = tagged.map Prod.snd := by
  refine ⟨grouped.flatMap fun e => e.2.map fun s => (e.1, s), ?_, ?_⟩
  · rw [collapseRows, List.map_flatMap]
    refine List.flatMap_congr fun e _ => ?_
    rw [List.map_map]
    rfl
  · rw [Grouped.toList, List.map_flatMap]
    refine List.flatMap_congr fun e _ => ?_
    rw [List.map_map]
    exact (List.map_id e.2).symm

theorem members_collapseRows (grouped : Grouped (Source Float)) :
    (collapseRows grouped).map CollapseRow.members = grouped.toList.map Source.memberCount := by
  rcases exists_tagged grouped with ⟨tagged, hrows, hsources⟩
  rw [hrows, hsources, List.map_map, List.map_map]
  rfl

/-- The ids on the rows of point sources. -/
theorem points_collapseRows (grouped : Grouped (Source Float)) :
    ((collapseRows grouped).filter fun row => row.kind == "point").map CollapseRow.id
      = (Gridding.points grouped.toList).map fun s => s.id := by
  rcases exists_tagged grouped with ⟨tagged, hrows, hsources⟩
  rw [hrows, hsources]
  clear hrows hsources
  induction tagged with
  | nil => rfl
  | cons e rest ih =>
      rcases e with ⟨g, s⟩
      cases s with
      | point s => exact congrArg (s.id :: ·) ih
      | cluster c => exact ih
      | other o => exact ih

/-- The ids and the numbers of members on the rows of clusters. -/
theorem clusters_collapseRows (grouped : Grouped (Source Float)) :
    ((collapseRows grouped).filter fun row => row.kind == "collapsed").map
        (fun row => (row.id, row.members))
      = (clustersOf grouped.toList).map fun c => (c.id, c.members.length) := by
  rcases exists_tagged grouped with ⟨tagged, hrows, hsources⟩
  rw [hrows, hsources]
  clear hrows hsources
  induction tagged with
  | nil => rfl
  | cons e rest ih =>
      rcases e with ⟨g, s⟩
      cases s with
      | point s => exact ih
      | cluster c => exact congrArg ((c.id, c.members.length) :: ·) ih
      | other o => exact ih

/-- A row of a cluster is that of one of the clusters. -/
theorem exists_cluster_of_row (grouped : Grouped (Source Float)) (row : CollapseRow)
    (hrow : row ∈ collapseRows grouped) (hkind : row.kind = "collapsed") :
    ∃ c ∈ clustersOf grouped.toList, c.id = row.id ∧ c.members.length = row.members := by
  have hmem : (row.id, row.members) ∈ ((collapseRows grouped).filter fun row =>
      row.kind == "collapsed").map fun row => (row.id, row.members) :=
    List.mem_map_of_mem (List.mem_filter.mpr ⟨hrow, beq_iff_eq.mpr hkind⟩)
  rw [clusters_collapseRows, List.mem_map] at hmem
  rcases hmem with ⟨c, hc, heq⟩
  rw [Prod.mk.injEq] at heq
  exact ⟨c, hc, heq.1, heq.2⟩

/-- A text fills a column of some width: nothing but blanks stand behind it, and they end with
    the column. A text that is wider than the column has none. -/
def Fills (width : Nat) (s column : String) : Prop :=
  ∃ blanks : List Char, (∀ c ∈ blanks, c = ' ') ∧ column = s ++ String.ofList blanks ∧
    column.length = max width s.length

/-- A line of the table tells a row: its group, its id, its kind, the number of its members and
    its centre, in this order. -/
def Tells (row : CollapseRow) (line : String) : Prop :=
  ∃ id kind members, Fills 16 row.id id ∧ Fills 10 row.kind kind ∧
    Fills 4 (toString row.members) members ∧
    line = "grp=" ++ toString row.group ++ " " ++ id ++ " " ++ kind ++ " members=" ++ members
      ++ " " ++ row.wkt

theorem fills_iff (width : Nat) (s column : String) :
    Fills width s column ↔ column = padRight width s := by
  constructor
  · rintro ⟨blanks, hblanks, hcolumn, hwidth⟩
    have hlength : blanks.length = width - s.length := by
      rw [hcolumn, String.length_append, String.length_ofList] at hwidth
      omega
    rw [hcolumn, padRight, List.eq_replicate_iff.mpr ⟨hlength, hblanks⟩]
  · intro h
    refine ⟨List.replicate (width - s.length) ' ', fun c hc => List.eq_of_mem_replicate hc, h, ?_⟩
    rw [h, padRight, String.length_append, String.length_ofList, List.length_replicate]
    omega

/-- The only line that tells a row is the one that is written. -/
theorem tells_iff (row : CollapseRow) (line : String) :
    Tells row line ↔ line = collapseText row := by
  simp only [Tells, fills_iff]
  constructor
  · rintro ⟨_, _, _, rfl, rfl, rfl, hline⟩
    exact hline
  · intro h
    exact ⟨_, _, _, rfl, rfl, rfl, h⟩

/-- Nothing but its centre is left open by the other values of a row. -/
theorem row_eq {row : CollapseRow} {group members : Nat} {id kind : String}
    (h : (row.group, row.id, row.kind, row.members) = (group, id, kind, members)) :
    row = ⟨group, id, kind, members, row.wkt⟩ := by
  simp only [Prod.mk.injEq] at h
  rw [← h.1, ← h.2.1, ← h.2.2.1, ← h.2.2.2]

/-- The lines of the table tell the rows, one by one. -/
theorem forall₂_tells (rows : List CollapseRow) :
    List.Forall₂ Tells rows (rows.map collapseText) := by
  rw [List.forall₂_map_right_iff, List.forall₂_same]
  exact fun row _ => (tells_iff row _).mpr rfl

/-- The object with some ids of clusters as keys, and with the ids of members under them. -/
def clusterObject (entries : List (String × List String)) : Json :=
  Json.object (entries.map fun e => (e.1, Json.array (e.2.map Json.string)))

/-- The lines of the object hold the object. -/
theorem read?_clusterObject (entries : List (String × List String)) :
    Json.read? ("\n".intercalate (clusterObject entries).renderLines)
      = some (clusterObject entries) := by
  have hreadable : Json.Readable 2 (clusterObject entries) := by
    refine .object (List.forall_mem_map.mpr fun e _ => ?_)
    exact .array (List.forall_mem_map.mpr fun id _ => .string id)
  exact Json.read?_text hreadable (by decide)

end Report

end Seismicity
