import Mathlib.Data.List.Forall2
import Seismicity.Gridding
import Seismicity.Proofs.Binning.Classes
import Seismicity.Proofs.Source.Agreement

/-!
# The Cells of a Pass

What the gridding pass does with the point sources of one group, once it is
known that there is a grid. The program bins coordinates, gets lists of
positions back, and takes the sources out of their slots position by position.
Here the same is said of the sources themselves: a cell is a column and a row,
its members are the point sources that lie in it, and `standIns` puts one source
in the place of each occupied cell.

Two things have to be shown for that. `takeSlots` returns what stands at the
positions only as long as no position has been taken before, so the cells must
not share any; that is `groupPositions_flatten_perm`. And the positions of a
cell, looked up again, must give exactly the sources in it, in their order; that
is `filterMap_indicesOf`. `gridPoints_eq` puts the two together.

## Main definitions

* `Gridding.cellOf`: The column and the row in which a point source lies.
* `Gridding.occupied`: The cells that hold a point source.
* `Gridding.membersOf`: The point sources in a cell.
* `Gridding.Griddable`: A grid can be laid out.
* `Gridding.standIns`: The sources that stand for lists of members.
* `Gridding.StandsFor`: A source stands for the members of a cell.
* `Gridding.Uniform`: Members agree with the first of them.

## Theorems

* `takeSlots_fst`, `takeSlots_snd`: Taking sources out of their slots.
* `cellSources_eq_standIns`: Slots are taken at most once.
* `cellsOf_eq_ok`, `cellsOf_eq_error`: When the positions of the cells exist.
* `gridPoints_eq`: Gridding point sources, in terms of cells and members.
* `StandsFor.eq_point`, `StandsFor.exists_cluster`: What stands for one member and for
  several.
* `cellSource_ok`: What stands for a cell.
* `cellSource_eq_ok_iff`, `cellSource_error`: When a cell fails.
* `occupied_flatMap_membersOf_perm`: Each point source is in one cell.
-/

namespace Seismicity

variable {α : Type} [Scalar α]

namespace Gridding

/-- The longitudes of point sources. -/
def longitudes (pts : List (PointSource α)) : List α := pts.map fun s => s.location.longitude

/-- The latitudes of point sources. -/
def latitudes (pts : List (PointSource α)) : List α := pts.map fun s => s.location.latitude

/-- The columns of the grid over point sources. -/
def columns (km : α) (pts : List (PointSource α)) : Axis α :=
  Axis.across (longitudes pts) (deltaX km pts)

/-- The rows of the grid over point sources. -/
def rows (km : α) (pts : List (PointSource α)) : Axis α := Axis.across (latitudes pts) (deltaY km)

/-- The column and the row in which a point source lies. -/
def cellOf (km : α) (pts : List (PointSource α)) (s : PointSource α) : Nat × Nat :=
  ((columns km pts).cellIndex s.location.longitude, (rows km pts).cellIndex s.location.latitude)

/-- The cells that hold a point source, in the order of their first members. -/
def occupied (km : α) (pts : List (PointSource α)) : List (Nat × Nat) :=
  (pts.map (cellOf km pts)).eraseDups

/-- The point sources in a cell, in their order. -/
def membersOf (km : α) (pts : List (PointSource α)) (cell : Nat × Nat) : List (PointSource α) :=
  pts.filter fun s => cellOf km pts s == cell

/-- A grid can be laid out over point sources: the spacing in degrees is
    positive and finite along both axes, along parallels at their mean latitude and
    along meridians as on the equator, all coordinates are finite, and neither axis
    needs more cells than can be counted. -/
structure Griddable (km : α) (pts : List (PointSource α)) : Prop where
  spacingX : 0.0 < Geodesy.angularDistance km (meanLatitude pts) ∧
    Scalar.isFinite (Geodesy.angularDistance km (meanLatitude pts)) = true
  spacingY : 0.0 < Geodesy.angularDistance km 0.0 ∧
    Scalar.isFinite (Geodesy.angularDistance km 0.0) = true
  coordinates : ∀ s ∈ pts, Scalar.isFinite s.location.longitude = true ∧
    Scalar.isFinite s.location.latitude = true
  columns : Axis.cellsNeeded (longitudes pts) (Geodesy.angularDistance km (meanLatitude pts))
    ≤ Axis.maxCells
  rows : Axis.cellsNeeded (latitudes pts) (Geodesy.angularDistance km 0.0) ≤ Axis.maxCells

theorem occupied_nodup (km : α) (pts : List (PointSource α)) : (occupied km pts).Nodup :=
  Binning.nodup_eraseDups _

theorem mem_occupied (km : α) (pts : List (PointSource α)) (cell : Nat × Nat) :
    cell ∈ occupied km pts ↔ ∃ s ∈ pts, cellOf km pts s = cell := by
  rw [occupied, List.mem_eraseDups, List.mem_map]

theorem mem_membersOf (km : α) (pts : List (PointSource α)) (cell : Nat × Nat)
    (s : PointSource α) : s ∈ membersOf km pts cell ↔ s ∈ pts ∧ cellOf km pts s = cell := by
  rw [membersOf, List.mem_filter, beq_iff_eq]

theorem membersOf_ne_nil (km : α) (pts : List (PointSource α)) (cell : Nat × Nat)
    (h : cell ∈ occupied km pts) : membersOf km pts cell ≠ [] := by
  rcases (mem_occupied km pts cell).mp h with ⟨s, hs, hcell⟩
  exact List.ne_nil_of_mem ((mem_membersOf km pts cell s).mpr ⟨hs, hcell⟩)

/-- Each point source is in exactly one of the occupied cells. -/
theorem occupied_flatMap_membersOf_perm (km : α) (pts : List (PointSource α)) :
    ((occupied km pts).flatMap (membersOf km pts)).Perm pts :=
  Binning.flatMap_filter_perm pts (cellOf km pts) _ (occupied_nodup km pts)
    fun s hs => (mem_occupied km pts _).mpr ⟨s, hs, rfl⟩

/-- The positions of the point sources in a cell. -/
def positionsOf (km : α) (pts : List (PointSource α)) (cell : Nat × Nat) : List Nat :=
  Binning.indicesOf cell (pts.map (cellOf km pts)).zipIdx

/-- The cells of point sources on a grid. -/
theorem keys_eq (km : α) (pts : List (PointSource α)) :
    Binning.keys (columns km pts, rows km pts) (longitudes pts) (latitudes pts)
      = pts.map (cellOf km pts) := by
  rw [Binning.keys, longitudes, latitudes, List.zip_map', List.map_map]
  rfl

/-- Nothing is wrong with coordinates and spacings of sources over which a grid
    can be laid out. -/
theorem fault?_eq_none_iff (km : α) (pts : List (PointSource α)) :
    Binning.fault? (longitudes pts) (latitudes pts) (deltaX km pts) (deltaY km) = none ↔
      ((0.0 < deltaX km pts ∧ Scalar.isFinite (deltaX km pts) = true) ∧
        (0.0 < deltaY km ∧ Scalar.isFinite (deltaY km) = true)) ∧
      ∀ s ∈ pts, Scalar.isFinite s.location.longitude = true ∧
        Scalar.isFinite s.location.latitude = true := by
  rw [Binning.fault?_eq_none_iff]
  simp only [longitudes, latitudes, List.length_map, true_and, List.mem_append, List.mem_map]
  refine and_congr_right fun _ => ⟨fun h s hs => ?_, fun h v hv => ?_⟩
  · exact ⟨h _ (Or.inl ⟨s, hs, rfl⟩), h _ (Or.inr ⟨s, hs, rfl⟩)⟩
  · rcases hv with ⟨s, hs, heq⟩ | ⟨s, hs, heq⟩
    · exact heq ▸ (h s hs).1
    · exact heq ▸ (h s hs).2

omit [Scalar α] in
theorem longitudes_ne_nil (pts : List (PointSource α)) (hne : pts ≠ []) : longitudes pts ≠ [] :=
  List.map_eq_nil_iff.not.mpr hne

theorem cellsOf_eq_ok (km : α) (pts : List (PointSource α)) (hne : pts ≠ [])
    (h : Griddable km pts) :
    cellsOf km pts = .ok ((occupied km pts).map (positionsOf km pts)) := by
  have hfault := (fault?_eq_none_iff km pts).mpr ⟨⟨h.spacingX, h.spacingY⟩, h.coordinates⟩
  -- What is left after the checks is the grouping of positions by cell.
  have hgroups : (occupied km pts).map (positionsOf km pts) = Binning.groupPositions
      (Binning.keys (columns km pts, rows km pts) (longitudes pts) (latitudes pts)) := by
    rw [keys_eq, Binning.groupPositions_eq]
    rfl
  exact (Binning.cells_eq_ok_iff _ _ (longitudes_ne_nil pts hne) _ _ _).mpr
    ⟨hfault, ⟨h.columns, h.rows⟩, hgroups⟩

theorem cellsOf_eq_error (km : α) (pts : List (PointSource α)) (hne : pts ≠ [])
    (h : ¬ Griddable km pts) : ∃ fault, cellsOf km pts = .error fault := by
  cases hcells : cellsOf km pts with
  | error fault => exact ⟨fault, rfl⟩
  | ok groups =>
      rcases (Binning.cells_eq_ok_iff _ _ (longitudes_ne_nil pts hne) _ _ _).mp hcells with
        ⟨hfault, hcounted, _⟩
      have hchecked := (fault?_eq_none_iff km pts).mp hfault
      exact absurd ⟨hchecked.1.1, hchecked.1.2, hchecked.2, hcounted.1, hcounted.2⟩ h

/-- The positions of all cells together hold no position twice. -/
theorem positions_nodup (km : α) (pts : List (PointSource α)) :
    ((occupied km pts).map (positionsOf km pts)).flatten.Nodup := by
  have hcells : (occupied km pts).map (positionsOf km pts)
      = Binning.groupPositions (pts.map (cellOf km pts)) := by
    rw [Binning.groupPositions_eq]
    rfl
  rw [hcells, (Binning.groupPositions_flatten_perm _).nodup_iff]
  exact List.nodup_range

/-- The sources at the positions of a cell are the sources in the cell. -/
theorem filterMap_positionsOf (km : α) (pts : List (PointSource α)) (cell : Nat × Nat) :
    ((positionsOf km pts cell).filterMap fun i => pts[i]?) = membersOf km pts cell :=
  Binning.filterMap_indicesOf pts (cellOf km pts) cell

/-- What is taken is what the slots held, as long as no position comes twice. -/
theorem takeSlots_fst {β : Type} (positions : List Nat) : ∀ (slots : List (Option β)),
    positions.Nodup →
    (takeSlots positions slots).1 = positions.filterMap fun i => slots[i]?.join := by
  induction positions with
  | nil =>
      intro slots _
      rfl
  | cons position rest ih =>
      intro slots hnodup
      rw [List.nodup_cons] at hnodup
      -- The slot that has just been emptied is not among those still to come.
      have hleft : (rest.filterMap fun i => (slots.set position none)[i]?.join)
          = rest.filterMap fun i => slots[i]?.join := by
        refine List.filterMap_congr fun i hi => ?_
        have hne : position ≠ i := fun heq => hnodup.1 (heq ▸ hi)
        rw [List.getElem?_set_ne hne]
      simp only [takeSlots]
      rw [ih _ hnodup.2, hleft, List.filterMap_cons]
      cases slots[position]?.join with
      | none => rfl
      | some s => rfl

/-- Slots at other positions are left as they are. -/
theorem takeSlots_snd {β : Type} (positions : List Nat) (i : Nat) : ∀ (slots : List (Option β)),
    i ∉ positions → (takeSlots positions slots).2[i]? = slots[i]? := by
  induction positions with
  | nil =>
      intro slots _
      rfl
  | cons position rest ih =>
      intro slots hmem
      rw [List.mem_cons, not_or] at hmem
      simp only [takeSlots]
      rw [ih _ hmem.2, List.getElem?_set_ne (Ne.symm hmem.1)]

/-- The sources that stand for lists of members, numbered from `cell` on. -/
def standIns (task cell : Nat) :
    List (List (PointSource α)) → Except (ClusterFault α) (List (Source α))
  | [] => .ok []
  | members :: rest =>
    match cellSource task cell members with
    | .error fault => .error fault
    | .ok source? =>
      match standIns task (cell + 1) rest with
      | .error fault => .error fault
      | .ok more => .ok (source?.toList ++ more)

/-- Taking sources out of their slots, cell by cell, gives each cell its members.
    No slot is found empty, the cells having no position in common. -/
theorem cellSources_eq_standIns (task : Nat) (pts : List (PointSource α))
    (cells : List (List Nat)) : ∀ (cell : Nat) (slots : List (Option (PointSource α))),
    cells.flatten.Nodup → (∀ i ∈ cells.flatten, slots[i]?.join = pts[i]?) →
    cellSources task slots cell cells
      = standIns task cell (cells.map fun positions => positions.filterMap fun i => pts[i]?) := by
  induction cells with
  | nil =>
      intro cell slots _ _
      rfl
  | cons positions rest ih =>
      intro cell slots hnodup hslots
      rw [List.flatten_cons, List.nodup_append] at hnodup
      rw [List.flatten_cons] at hslots
      have htaken : (takeSlots positions slots).1 = positions.filterMap fun i => pts[i]? := by
        rw [takeSlots_fst positions slots hnodup.1]
        exact List.filterMap_congr fun i hi => hslots i (List.mem_append_left _ hi)
      -- The other cells share no position with this one, so their slots are full.
      have hleft : ∀ i ∈ rest.flatten, (takeSlots positions slots).2[i]?.join = pts[i]? := by
        intro i hi
        have hnot : i ∉ positions := fun hp => hnodup.2.2 i hp i hi rfl
        rw [takeSlots_snd positions i slots hnot]
        exact hslots i (List.mem_append_right _ hi)
      have hrest := ih (cell + 1) _ hnodup.2.1 hleft
      simp only [cellSources, List.map_cons, standIns, htaken]
      cases cellSource task cell (positions.filterMap fun i => pts[i]?) with
      | error fault => rfl
      | ok source? =>
          cases hmore : standIns task (cell + 1)
              (rest.map fun positions => positions.filterMap fun i => pts[i]?) with
          | error fault =>
              rw [hmore] at hrest
              simp only [hrest]
          | ok more =>
              rw [hmore] at hrest
              simp only [hrest]

/-- Gridding point sources over which a grid can be laid out. -/
theorem gridPoints_eq (km : α) (task : Nat) (pts : List (PointSource α)) (hne : pts ≠ [])
    (h : Griddable km pts) :
    gridPoints km task pts =
      match standIns task 0 ((occupied km pts).map (membersOf km pts)) with
      | .error fault => .error (.cluster fault)
      | .ok out => .ok out := by
  have hslots : ∀ i ∈ ((occupied km pts).map (positionsOf km pts)).flatten,
      (pts.map some)[i]?.join = pts[i]? := by
    intro i _
    rw [List.getElem?_map]
    cases pts[i]? with
    | none => rfl
    | some s => rfl
  have hmembers : ((occupied km pts).map (positionsOf km pts)).map
      (fun positions => positions.filterMap fun i => pts[i]?)
      = (occupied km pts).map (membersOf km pts) := by
    rw [List.map_map]
    exact List.map_congr_left fun cell _ => filterMap_positionsOf km pts cell
  have hcells := cellSources_eq_standIns task pts _ 0 _ (positions_nodup km pts) hslots
  rw [hmembers] at hcells
  unfold gridPoints
  rw [cellsOf_eq_ok km pts hne h]
  cases hstand : standIns task 0 ((occupied km pts).map (membersOf km pts)) with
  | error fault =>
      rw [hstand] at hcells
      simp only [hcells]
  | ok out =>
      rw [hstand] at hcells
      simp only [hcells]

/-- A source stands for the members of a cell: it is the only one of them, or the
    cluster of all of them, named after the pass and the cell. -/
def StandsFor (task cell : Nat) (members : List (PointSource α)) : Source α → Prop
  | .point s => members = [s]
  | .cluster c =>
    2 ≤ members.length ∧ c.members = members ∧
      c.id = "cps-" ++ toString task ++ "-" ++ toString cell
  | .other _ => False

omit [Scalar α] in
/-- One member is its own stand-in. -/
theorem StandsFor.eq_point {task cell : Nat} {p : PointSource α} {s : Source α}
    (h : StandsFor task cell [p] s) : s = .point p := by
  cases s with
  | point q => exact congrArg _ (List.singleton_inj.mp h).symm
  | cluster c => exact absurd h.1 (Nat.not_succ_le_self 1)
  | other o => exact absurd h not_false

omit [Scalar α] in
/-- Several members have a cluster as their stand-in. -/
theorem StandsFor.exists_cluster {task cell : Nat} {members : List (PointSource α)}
    {s : Source α} (hseveral : 2 ≤ members.length) (h : StandsFor task cell members s) :
    ∃ c, s = .cluster c ∧ c.members = members ∧ c.id = clusterId task cell := by
  cases s with
  | point q =>
      rw [show members = [q] from h] at hseveral
      exact absurd hseveral (Nat.not_succ_le_self 1)
  | cluster c => exact ⟨c, rfl, h.2⟩
  | other o => exact absurd h not_false

/-- The sources of a list all agree with the first of them. -/
def Uniform (members : List (PointSource α)) : Prop :=
  ∀ first, members.head? = some first → ∀ s ∈ members, first.Agrees s

theorem uniform_cons_iff (first : PointSource α) (rest : List (PointSource α)) :
    Uniform (first :: rest) ↔ ∀ s ∈ first :: rest, first.Agrees s := by
  constructor
  · intro h
    exact h first rfl
  · intro h other hother
    rw [List.head?_cons, Option.some.injEq] at hother
    rw [← hother]
    exact h

theorem uniform_pair_iff (p q : PointSource α) :
    Uniform [p, q] ↔ p.Agrees p ∧ p.Agrees q := by
  rw [uniform_cons_iff, List.forall_mem_cons, List.forall_mem_singleton]

/-- Several members have to form a cluster. -/
theorem cellSource_of_two (task cell : Nat) (s t : PointSource α) (rest : List (PointSource α)) :
    cellSource task cell (s :: t :: rest) =
      match Cluster.form (clusterId task cell) (s :: t :: rest) with
      | .error fault => .error fault
      | .ok c => .ok (some (.cluster c)) :=
  rfl

/-- What stands for a cell with members is one source. -/
theorem cellSource_ok (task cell : Nat) (members : List (PointSource α)) (hne : members ≠ [])
    (source? : Option (Source α)) (h : cellSource task cell members = .ok source?) :
    ∃ s, source? = some s ∧ StandsFor task cell members s ∧
      ∀ c, s = .cluster c → c.Formed := by
  match members, hne with
  | [s], _ =>
      rw [cellSource, Except.ok.injEq] at h
      exact ⟨.point s, h.symm, rfl, fun c hc => absurd hc (by simp only [reduceCtorEq,
        not_false_eq_true])⟩
  | s :: t :: rest, _ =>
      rw [cellSource_of_two] at h
      cases hform : Cluster.form (clusterId task cell) (s :: t :: rest) with
      | error fault =>
          rw [hform] at h
          exact absurd h (by simp only [reduceCtorEq, not_false_eq_true])
      | ok c =>
          rw [hform, Except.ok.injEq] at h
          rcases Cluster.form_ok _ _ _ hform with ⟨hid, hmembers, hformed⟩
          refine ⟨.cluster c, h.symm, ⟨?_, hmembers, hid⟩, fun c' hc' => ?_⟩
          · simp only [List.length_cons]
            omega
          · rw [← Source.cluster.inj hc']
            exact hformed

/-- A cell fails exactly if it has several members that are not uniform. -/
theorem cellSource_eq_ok_iff (task cell : Nat) (members : List (PointSource α)) :
    (∃ source?, cellSource task cell members = .ok source?) ↔
      (2 ≤ members.length → Uniform members) := by
  match members with
  | [] =>
      refine ⟨fun _ hlen => ?_, fun _ => ⟨none, rfl⟩⟩
      rw [List.length_nil] at hlen
      omega
  | [s] =>
      refine ⟨fun _ hlen => ?_, fun _ => ⟨some (.point s), rfl⟩⟩
      rw [List.length_singleton] at hlen
      omega
  | s :: t :: rest =>
      have hlen : 2 ≤ (s :: t :: rest).length := by
        simp only [List.length_cons]
        omega
      rw [uniform_cons_iff, ← Cluster.form_eq_ok_iff (clusterId task cell), cellSource_of_two]
      cases Cluster.form (clusterId task cell) (s :: t :: rest) with
      | error fault =>
          simp only [reduceCtorEq, exists_false, hlen, true_imp_iff]
      | ok c => exact ⟨fun _ _ => ⟨c, rfl⟩, fun _ => ⟨_, rfl⟩⟩

/-- A cell that fails has several members, and the fault reports one of them. -/
theorem cellSource_error (task cell : Nat) (members : List (PointSource α))
    (fault : ClusterFault α) (h : cellSource task cell members = .error fault) :
    2 ≤ members.length ∧ ∃ first, members.head? = some first ∧
      ∃ s ∈ members, fault.Reports first s := by
  match members with
  | [] => exact absurd h (by simp only [cellSource, reduceCtorEq, not_false_eq_true])
  | [s] => exact absurd h (by simp only [cellSource, reduceCtorEq, not_false_eq_true])
  | s :: t :: rest =>
      rw [cellSource_of_two] at h
      cases hform : Cluster.form (clusterId task cell) (s :: t :: rest) with
      | error found =>
          rw [hform, Except.error.injEq] at h
          rw [← h]
          refine ⟨?_, s, rfl, Cluster.form_error _ s _ found hform⟩
          simp only [List.length_cons]
          omega
      | ok c =>
          rw [hform] at h
          exact absurd h (by simp only [reduceCtorEq, not_false_eq_true])

end Gridding

end Seismicity
