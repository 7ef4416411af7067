import Seismicity.Proofs.Binning.Edges
import Seismicity.Proofs.Geodesy.Boxes
import Seismicity.Proofs.Gridding.Order
import Seismicity.Proofs.Gridding.Tags

/-!
# The Tightness of Clusters

In exact arithmetic a cluster is no wider than the spacing of the pass that created it.

The spacing is a distance. Along a meridian it is the same number of degrees everywhere.
Along a parallel it is the more degrees the closer to a pole, and the pass takes it at the
mean latitude of all its point sources. Members of a cluster lie in one column and in one
row, which are no wider than that.

What a pass returns behind the sources it carries along has one entry for each cell, and
what an entry holds are the point sources in its cell. Point sources in one cell are thus
held by one entry, even if some of them are equal: no other entry holds any in that cell.

## Main definitions

* `Gridding.contents`: The point sources that a source holds.
* `Gridding.Gathered`: One source holds all point sources of some kind.
* `Gridding.Tight`: What a pass makes of point sources is as tight as the spacing.

## Theorems

* `map_contents_of_gridPoints`: What the entries hold are the members of the cells.
* `gathered_of_cell`: Point sources in one cell are held by one entry.
* `abs_latitude_sub_le`, `abs_longitude_sub_le`: How far apart they are.
* `exists_created`: What a pass makes of the point sources.
* `clusters_tight`: Clusters are as tight as the spacing promises.
-/

namespace Seismicity

namespace Gridding

/-- The point sources that a source holds: itself, or the members of a cluster. -/
def contents {α : Type} (s : Source α) : List (PointSource α) := points s.leaves

theorem contents_cluster (c : Cluster ℝ) : contents (.cluster c) = c.members :=
  points_map_point c.members

/-- What stands for members holds the members. -/
theorem Represents.contents {members : List (PointSource ℝ)} {s : Source ℝ}
    (h : Represents members s) : contents s = members := by
  rcases h.1 with ⟨task, cell, hstands⟩
  cases s with
  | point p => exact (show members = [p] from hstands).symm
  | cluster c => rw [contents_cluster, hstands.2.1]
  | other o => exact absurd hstands not_false

/-- One source of a list holds all point sources of some kind that the list holds, and it
    holds one. -/
def Gathered (kind : PointSource ℝ → Prop) (out : List (Source ℝ)) : Prop :=
  ∃ before s after, out = before ++ s :: after ∧ (∃ p ∈ contents s, kind p) ∧
    ∀ t ∈ before ++ after, ∀ p ∈ contents t, ¬ kind p

section Contents

variable {km : ℝ} {task : Nat} {pts : List (PointSource ℝ)} {out : List (Source ℝ)}

/-- The entries hold the members of the occupied cells, in their order. -/
theorem map_contents_of_gridPoints (hne : pts ≠ []) (h : gridPoints km task pts = .ok out) :
    out.map contents = (occupied km pts).map (membersOf km pts) := by
  have hcontents : List.Forall₂ (fun cell s => membersOf km pts cell = contents s)
      (occupied km pts) out :=
    (represents_of_gridPoints km task pts hne out h).imp fun _ _ hs => hs.contents.symm
  have hmapped : List.Forall₂ Eq ((occupied km pts).map (membersOf km pts)) (out.map contents) :=
    List.forall₂_map_left_iff.mpr (List.forall₂_map_right_iff.mpr hcontents)
  rw [List.forall₂_eq_eq_eq] at hmapped
  exact hmapped.symm

/-- All point sources are held, each once. -/
theorem contents_perm (hne : pts ≠ []) (h : gridPoints km task pts = .ok out) :
    (out.flatMap contents).Perm pts := by
  rw [List.flatMap_def, map_contents_of_gridPoints hne h, ← List.flatMap_def]
  exact occupied_flatMap_membersOf_perm km pts

/-- Point sources in one cell are held by one entry. -/
theorem gathered_of_cell (hne : pts ≠ []) (h : gridPoints km task pts = .ok out)
    (kind : PointSource ℝ → Prop) (p : PointSource ℝ) (hp : p ∈ pts) (hkind : kind p)
    (hcell : ∀ q, kind q → cellOf km pts q = cellOf km pts p) : Gathered kind out := by
  have hmap := map_contents_of_gridPoints hne h
  have hoccupied := (mem_occupied km pts _).mpr ⟨p, hp, rfl⟩
  have hnodup := occupied_nodup km pts
  -- The cell is one of the occupied cells, and its entry has the same place in the result.
  rcases List.append_of_mem hoccupied with ⟨front, back, hcells⟩
  rw [hcells] at hmap hnodup
  rw [List.map_append, List.map_cons, List.map_eq_append_iff] at hmap
  rcases hmap with ⟨before, tail, rfl, hbefore, htail⟩
  rw [List.map_eq_cons_iff] at htail
  rcases htail with ⟨s, after, rfl, hs, hafter⟩
  refine ⟨before, s, after, rfl, ⟨p, ?_, hkind⟩, fun t ht q hq hkindq => ?_⟩
  · rw [hs]
    exact (mem_membersOf km pts _ p).mpr ⟨hp, rfl⟩
  · -- Whatever else is held lies in the cells in front and behind.
    have hmem : contents t ∈ (front ++ back).map (membersOf km pts) := by
      rw [List.map_append, ← hbefore, ← hafter, ← List.map_append]
      exact List.mem_map_of_mem ht
    rcases List.mem_map.mp hmem with ⟨cell, hcell', heq⟩
    rw [← heq, mem_membersOf, hcell q hkindq] at hq
    rw [← hq.2] at hcell'
    exact (List.nodup_middle.mp hnodup).notMem hcell'

end Contents

section Nearness

variable {km : ℝ} {pts : List (PointSource ℝ)} {s t : PointSource ℝ} (hs : s ∈ pts) (ht : t ∈ pts)
  (hcell : cellOf km pts s = cellOf km pts t)

include hs ht hcell

theorem abs_latitude_sub_le (hgrid : Griddable km pts) :
    |s.location.latitude - t.location.latitude| ≤ km * Geodesy.degreesPerKm := by
  have hdelta : deltaY km = km * Geodesy.degreesPerKm :=
    Geodesy.angularDistance_equator km Exact.zero_eq
  have hpos : 0 < deltaY km := Exact.zero_eq.symm.trans_lt hgrid.spacingY.1
  have hmem : ∀ q ∈ pts, q.location.latitude ∈ latitudes pts :=
    fun q hq => List.mem_map.mpr ⟨q, hq, rfl⟩
  rw [← hdelta]
  exact Axis.abs_sub_le_delta _ hpos (hmem s hs) (hmem t ht)
    (congrArg Prod.snd hcell)

theorem abs_longitude_sub_le (hgrid : Griddable km pts) :
    |s.location.longitude - t.location.longitude| ≤ km * Geodesy.degreesPerKm
      / Real.cos (Scalar.toRadians ((latitudes pts).sum / pts.length)) := by
  have hpos : 0 < deltaX km pts := Exact.zero_eq.symm.trans_lt hgrid.spacingX.1
  have hmem : ∀ q ∈ pts, q.location.longitude ∈ longitudes pts :=
    fun q hq => List.mem_map.mpr ⟨q, hq, rfl⟩
  rw [← meanLatitude_eq, ← Geodesy.angularDistance_eq]
  exact Axis.abs_sub_le_delta _ hpos (hmem s hs) (hmem t ht)
    (congrArg Prod.fst hcell)

end Nearness

/-- What a pass makes of point sources holds each of them once. Its clusters are no wider
    than the spacing, at the mean latitude along a parallel. Point sources at one place are
    held by one entry. -/
structure Tight (pts : List (PointSource ℝ)) (km : ℝ) (out : List (Source ℝ)) : Prop where
  contents : (out.flatMap contents).Perm pts
  near : ∀ c, .cluster c ∈ out → ∀ s ∈ c.members, ∀ t ∈ c.members,
    |s.location.latitude - t.location.latitude| ≤ km * Geodesy.degreesPerKm ∧
    |s.location.longitude - t.location.longitude| ≤ km * Geodesy.degreesPerKm
      / Real.cos (Scalar.toRadians ((latitudes pts).sum / pts.length))
  together : ∀ p ∈ pts, Gathered (fun s => s.location.longitude = p.location.longitude ∧
    s.location.latitude = p.location.latitude) out

/-- Point sources that are gridded are in clusters as tight as the spacing. -/
theorem tight_of_gridPoints (km : ℝ) (task : Nat) (pts : List (PointSource ℝ)) (hne : pts ≠ [])
    (out : List (Source ℝ)) (h : gridPoints km task pts = .ok out) : Tight pts km out where
  contents := contents_perm hne h
  near := by
    intro c hc s hs t ht
    have hgrid := (gridPoints_ok km task pts hne out h).1
    rcases cluster_of_gridPoints hne h c hc with ⟨_, cell, hmembers⟩
    rw [hmembers, mem_membersOf] at hs ht
    have hcell := hs.2.trans ht.2.symm
    exact ⟨abs_latitude_sub_le hs.1 ht.1 hcell hgrid, abs_longitude_sub_le hs.1 ht.1 hcell hgrid⟩
  together := by
    intro p hp
    refine gathered_of_cell hne h _ p hp ⟨rfl, rfl⟩ fun q hq => ?_
    rw [cellOf, cellOf, hq.1, hq.2]

/-- Fewer than two point sources are left as they are. -/
theorem tight_of_few (km : ℝ) (pts : List (PointSource ℝ)) (hfew : pts.length < 2) :
    Tight pts km (pts.map .point) where
  contents := by
    have hself : (pts.map Source.point).flatMap Gridding.contents = pts := by
      rw [List.flatMap_map]
      exact List.flatMap_singleton' pts
    rw [hself]
  near := by
    intro c hc
    rcases List.mem_map.mp hc with ⟨s, _, hs⟩
    exact absurd hs (by simp only [reduceCtorEq, not_false_eq_true])
  together := by
    intro p hp
    match pts with
    | [] => exact absurd hp List.not_mem_nil
    | [q] =>
        rw [List.mem_singleton.mp hp]
        exact ⟨[], .point q, [], rfl, ⟨q, List.mem_singleton_self q, rfl, rfl⟩,
          fun t ht => absurd ht List.not_mem_nil⟩
    | _ :: _ :: rest =>
        simp only [List.length_cons] at hfew
        omega

/-- What a pass with a positive spacing makes of the point sources. -/
theorem exists_created (sources : List (Source ℝ)) (km : ℝ) (hkm : 0 < km) (task : Nat)
    (grouped : Grouped (Source ℝ)) (h : gridSources sources (some km) task = .ok grouped) :
    ∃ out, grouped.toList = others sources ++ out ∧ Tight (points sources) km out := by
  cases sources with
  | nil =>
      rw [gridSources, Except.ok.injEq] at h
      rw [← h]
      exact ⟨[], rfl, tight_of_few km [] Nat.zero_lt_two⟩
  | cons first rest =>
      have hgroup := group_eq_of_gridSources_ok first rest _ task grouped h
      have hpositive : positive? (some km) = some km :=
        (positive?_eq_some_iff _ _).mpr ⟨rfl, by rwa [Exact.zero_eq]⟩
      rcases gridSources_ok _ _ (List.cons_ne_nil first rest) hgroup _ task grouped h with
        ⟨found, hfound, hcases⟩
      have hlist : grouped.toList = found := by
        rw [hfound, toList_single]
      rw [hpositive] at hcases
      rcases hcases with ⟨hnone, _⟩ | ⟨km', hkm', hcases⟩
      · exact absurd hnone (by simp only [reduceCtorEq, not_false_eq_true])
      · rw [← Option.some.inj hkm'] at hcases
        rcases hcases with ⟨hfew, hjoined⟩ | ⟨hmany, out, hout, hjoined⟩
        · exact ⟨_, hlist.trans hjoined, tight_of_few km _ hfew⟩
        · have hne : points (first :: rest) ≠ [] := List.length_pos_iff.mp (by omega)
          exact ⟨out, hlist.trans hjoined, tight_of_gridPoints km task _ hne out hout⟩

/-- Clusters are as tight as the spacing promises.

    Binning points puts them into groups no wider than the spacing along either axis: the
    cells of an axis evenly span the coordinates, none is wider than the spacing, and each
    point lies between the edges of its cell. A pass with a positive spacing returns the
    other sources and then what it makes of the point sources, which is as tight as the
    spacing in degrees, at their mean latitude along a parallel. -/
theorem clusters_tight :
    (∀ (xs ys : List ℝ) (deltaX deltaY : ℝ) (groups : List (List ℕ)),
      Binning.cells xs ys deltaX deltaY = .ok groups →
        Binning.Tight xs ys deltaX deltaY groups) ∧
    ∀ (sources : List (Source ℝ)) (km : ℝ) (task : Nat) (grouped : Grouped (Source ℝ)),
      0 < km → gridSources sources (some km) task = .ok grouped →
        ∃ out, grouped.toList = others sources ++ out ∧ Tight (points sources) km out :=
  ⟨Binning.cells_tight, fun sources km task grouped hkm h =>
    exists_created sources km hkm task grouped h⟩

/-- Four points on a line, the last two on edges of cells, and two sources at one place. -/
theorem clusters_tight_halves :
    Binning.Tight [0, 1 / 2, 1, 2] [0, 0, 0, 0] 1 1 [[0, 1], [2, 3]] ∧
    ∃ grouped, gridSources ((fromModels 4 4).map .point) (some 1) 7 = .ok grouped ∧
      Tight (fromModels 4 4) 1 grouped.toList := by
  rcases gridSources_fromModels_ok 4 4 with ⟨grouped, hok⟩
  rcases clusters_tight.2 _ 1 7 grouped one_pos hok with ⟨out, hout, htight⟩
  rw [others_map_point, List.nil_append] at hout
  rw [points_map_point] at htight
  exact ⟨clusters_tight.1 _ _ _ _ _ Binning.cells_halves, grouped, hok, hout ▸ htight⟩

end Gridding

end Seismicity
