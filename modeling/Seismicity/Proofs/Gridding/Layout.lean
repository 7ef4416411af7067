import Seismicity.Proofs.Binning.Edges
import Seismicity.Proofs.Geodesy.Boxes
import Seismicity.Proofs.Gridding.Cells

/-!
# What a Pass Returns

The layout of the list that the gridding pass returns for one group: the other
sources first, then one source for each occupied cell, numbered in the order of
the first members.

The pass has four ways to end well, and `gridSources_eq` lists them once the
group is known. The rest is about the last of them, the sources that stand for
cells. `standIns` fails at the first cell that fails, so a list that it returns
relates entry by entry to the cells, which is what `standIns_ok` says; the
number of a cell is its place among all occupied cells, whatever stands for the
cells before it.

## Main definitions

* `Gridding.onEquator`: A source on the equator.
* `Gridding.farAndPair`: Two sources at one place, and one far from them.

## Theorems

* `positive?_eq_some_iff`, `positive?_eq_none_iff`: The spacings that lay out a
  grid.
* `otherGroup?_eq_none_iff`, `otherGroup?_eq_some_iff`: Sources of other groups.
* `gridSources_of_mixed`, `gridSources_eq`: A pass, mixed groups apart.
* `gridSources_ok`, `gridSources_cases`, `gridSources_error`: What a pass over one group
  has done.
* `gridSources_ne_mixed`: Sources of one group are not reported as mixed.
* `group_eq_of_gridSources_ok`: A pass that succeeds saw one group.
* `standIns_ok`: Each cell has one source that stands for it.
* `standIns_eq_ok_iff`, `standIns_error`: When the cells fail.
* `gridPoints_pair`: Two sources at one place become a cluster.
* `meanLatitude_eq`: The mean latitude of point sources, in exact arithmetic.
* `griddable_onEquator`: Sources on the equator can be gridded.
* `gridSources_layout`: What a pass that succeeds returns.
-/

namespace Seismicity

namespace Gridding

variable {α : Type} [Scalar α]

theorem positive?_eq_some_iff (spacing : Option α) (km : α) :
    positive? spacing = some km ↔ spacing = some km ∧ 0.0 < km := by
  rw [positive?, Option.filter_eq_some_iff, decide_eq_true_iff]

theorem positive?_eq_none_iff (spacing : Option α) :
    positive? spacing = none ↔ ∀ km, spacing = some km → ¬ 0.0 < km := by
  rw [positive?, Option.filter_eq_none_iff]
  simp only [decide_eq_true_iff]

omit [Scalar α] in
theorem otherGroup?_eq_none_iff (g : Nat) (sources : List (Source α)) :
    otherGroup? g sources = none ↔ ∀ s ∈ sources, s.group = g := by
  simp only [otherGroup?, Option.map_eq_none_iff, List.find?_eq_none, bne_iff_ne, ne_eq, not_not]

omit [Scalar α] in
theorem otherGroup?_eq_some_iff (g found : Nat) (sources : List (Source α)) :
    otherGroup? g sources = some found ↔
      ∃ before s after, sources = before ++ s :: after ∧ (∀ t ∈ before, t.group = g) ∧
        s.group ≠ g ∧ s.group = found := by
  simp only [otherGroup?, Option.map_eq_some_iff, List.find?_eq_some_iff_append, bne_iff_ne, ne_eq,
    Bool.not_eq_eq_eq_not, Bool.not_true, bne_eq_false_iff_eq]
  constructor
  · rintro ⟨s, ⟨hne, before, after, heq, hbefore⟩, hfound⟩
    exact ⟨before, s, after, heq, hbefore, hne, hfound⟩
  · rintro ⟨before, s, after, heq, hbefore, hne, hfound⟩
    exact ⟨s, ⟨hne, before, after, heq, hbefore⟩, hfound⟩

/-- A pass over sources of which one has another group than the first. -/
theorem gridSources_of_mixed (first : Source α) (rest : List (Source α)) (spacing : Option α)
    (task found : Nat) (h : otherGroup? first.group (first :: rest) = some found) :
    gridSources (first :: rest) spacing task = .error (.mixedGroups first.group found) := by
  rw [gridSources, h]

/-- A pass over sources of one group. -/
theorem gridSources_eq (sources : List (Source α)) (g : Nat) (hne : sources ≠ [])
    (hgroup : ∀ s ∈ sources, s.group = g) (spacing : Option α) (task : Nat) :
    gridSources sources spacing task =
      match positive? spacing with
      | none => .ok [(g, sources)]
      | some km =>
        if (points sources).length < 2 then
          .ok [(g, others sources ++ (points sources).map .point)]
        else
          match gridPoints km task (points sources) with
          | .error failure => .error failure
          | .ok out => .ok [(g, others sources ++ out)] := by
  cases sources with
  | nil => exact absurd rfl hne
  | cons first rest =>
      have hfirst : first.group = g := hgroup first List.mem_cons_self
      have hnone := (otherGroup?_eq_none_iff g (first :: rest)).mpr hgroup
      rw [gridSources, hfirst]
      -- The condition is the same on both sides once it is known to be none.
      generalize otherGroup? g (first :: rest) = other at hnone ⊢
      subst hnone
      rfl

/-- Without a positive spacing a pass returns its input. -/
theorem gridSources_of_none (sources : List (Source α)) (g : Nat) (hne : sources ≠ [])
    (hgroup : ∀ s ∈ sources, s.group = g) (spacing : Option α) (task : Nat)
    (h : ∀ km, spacing = some km → ¬ 0.0 < km) :
    gridSources sources spacing task = .ok [(g, sources)] := by
  rw [gridSources_eq sources g hne hgroup, (positive?_eq_none_iff spacing).mpr h]

/-- Fewer than two point sources are moved behind the other sources. -/
theorem gridSources_of_few (sources : List (Source α)) (g : Nat) (hne : sources ≠ [])
    (hgroup : ∀ s ∈ sources, s.group = g) (km : α) (hkm : 0.0 < km) (task : Nat)
    (hfew : (points sources).length < 2) :
    gridSources sources (some km) task
      = .ok [(g, others sources ++ (points sources).map .point)] := by
  rw [gridSources_eq sources g hne hgroup, (positive?_eq_some_iff _ _).mpr ⟨rfl, hkm⟩]
  exact if_pos hfew

/-- Two or more point sources are gridded and put behind the other sources. -/
theorem gridSources_of_many (sources : List (Source α)) (g : Nat) (hne : sources ≠ [])
    (hgroup : ∀ s ∈ sources, s.group = g) (km : α) (hkm : 0.0 < km) (task : Nat)
    (hmany : 2 ≤ (points sources).length) :
    gridSources sources (some km) task =
      match gridPoints km task (points sources) with
      | .error failure => .error failure
      | .ok out => .ok [(g, others sources ++ out)] := by
  rw [gridSources_eq sources g hne hgroup, (positive?_eq_some_iff _ _).mpr ⟨rfl, hkm⟩]
  exact if_neg (by omega)

/-- Gridding point sources does not look at their groups. -/
theorem gridPoints_ne_mixed (km : α) (task : Nat) (pts : List (PointSource α))
    (expected found : Nat) : gridPoints km task pts ≠ .error (.mixedGroups expected found) := by
  unfold gridPoints
  cases cellsOf km pts with
  | error fault => simp only [ne_eq, Except.error.injEq, reduceCtorEq, not_false_eq_true]
  | ok cells =>
      simp only []
      cases cellSources task (pts.map some) 0 cells with
      | error fault => simp only [ne_eq, Except.error.injEq, reduceCtorEq, not_false_eq_true]
      | ok out => simp only [ne_eq, reduceCtorEq, not_false_eq_true]

/-- What a pass over one group that succeeds has done. -/
theorem gridSources_ok (sources : List (Source α)) (g : Nat) (hne : sources ≠ [])
    (hgroup : ∀ s ∈ sources, s.group = g) (spacing : Option α) (task : Nat)
    (grouped : Grouped (Source α)) (h : gridSources sources spacing task = .ok grouped) :
    ∃ out, grouped = [(g, out)] ∧
      (positive? spacing = none ∧ out = sources ∨
        ∃ km, positive? spacing = some km ∧
          ((points sources).length < 2 ∧ out = others sources ++ (points sources).map .point ∨
            2 ≤ (points sources).length ∧ ∃ entries,
              gridPoints km task (points sources) = .ok entries ∧
                out = others sources ++ entries)) := by
  rw [gridSources_eq sources g hne hgroup] at h
  cases hspacing : positive? spacing with
  | none =>
      rw [hspacing] at h
      exact ⟨sources, (Except.ok.inj h).symm, Or.inl ⟨rfl, rfl⟩⟩
  | some km =>
      simp only [hspacing] at h
      by_cases hfew : (points sources).length < 2
      · rw [if_pos hfew] at h
        exact ⟨_, (Except.ok.inj h).symm, Or.inr ⟨km, rfl, Or.inl ⟨hfew, rfl⟩⟩⟩
      · rw [if_neg hfew] at h
        cases hpoints : gridPoints km task (points sources) with
        | error failure =>
            rw [hpoints] at h
            exact absurd h (by simp only [reduceCtorEq, not_false_eq_true])
        | ok entries =>
            rw [hpoints] at h
            exact ⟨_, (Except.ok.inj h).symm,
              Or.inr ⟨km, rfl, Or.inr ⟨by omega, entries, hpoints, rfl⟩⟩⟩

/-- The list that a pass over one group returns is the input, the input with its point
    sources at the end, or has the cells of the point sources at the end. -/
theorem gridSources_cases (sources : List (Source α)) (g : Nat) (hne : sources ≠ [])
    (hgroup : ∀ s ∈ sources, s.group = g) (spacing : Option α) (task : Nat)
    (out : List (Source α)) (h : gridSources sources spacing task = .ok [(g, out)]) :
    positive? spacing = none ∧ out = sources ∨
      ∃ km, positive? spacing = some km ∧
        ((points sources).length < 2 ∧ out = others sources ++ (points sources).map .point ∨
          2 ≤ (points sources).length ∧ ∃ entries,
            gridPoints km task (points sources) = .ok entries ∧
              out = others sources ++ entries) := by
  rcases gridSources_ok sources g hne hgroup spacing task _ h with ⟨found, hfound, hcases⟩
  simp only [List.cons.injEq, Prod.mk.injEq, true_and, and_true] at hfound
  rw [hfound]
  exact hcases

/-- A pass over one group fails only by gridding its point sources. -/
theorem gridSources_error (sources : List (Source α)) (g : Nat) (hne : sources ≠ [])
    (hgroup : ∀ s ∈ sources, s.group = g) (spacing : Option α) (task : Nat)
    (failure : Failure α) (h : gridSources sources spacing task = .error failure) :
    ∃ km, positive? spacing = some km ∧ 2 ≤ (points sources).length ∧
      gridPoints km task (points sources) = .error failure := by
  rw [gridSources_eq sources g hne hgroup] at h
  cases hspacing : positive? spacing with
  | none =>
      rw [hspacing] at h
      exact absurd h (by simp only [reduceCtorEq, not_false_eq_true])
  | some km =>
      simp only [hspacing] at h
      by_cases hfew : (points sources).length < 2
      · rw [if_pos hfew] at h
        exact absurd h (by simp only [reduceCtorEq, not_false_eq_true])
      · rw [if_neg hfew] at h
        cases hpoints : gridPoints km task (points sources) with
        | ok entries =>
            rw [hpoints] at h
            exact absurd h (by simp only [reduceCtorEq, not_false_eq_true])
        | error found =>
            rw [hpoints, Except.error.injEq] at h
            exact ⟨km, rfl, by omega, h ▸ hpoints⟩

/-- Sources of one group are not reported as mixed. -/
theorem gridSources_ne_mixed (sources : List (Source α)) (g : Nat) (hne : sources ≠ [])
    (hgroup : ∀ s ∈ sources, s.group = g) (spacing : Option α) (task expected found : Nat) :
    gridSources sources spacing task ≠ .error (.mixedGroups expected found) := by
  intro h
  rcases gridSources_error sources g hne hgroup spacing task _ h with ⟨km, _, _, hpoints⟩
  exact gridPoints_ne_mixed km task (points sources) expected found hpoints

/-- A pass that succeeds saw sources of one group only. -/
theorem group_eq_of_gridSources_ok (first : Source α) (rest : List (Source α))
    (spacing : Option α) (task : Nat) (grouped : Grouped (Source α))
    (h : gridSources (first :: rest) spacing task = .ok grouped) :
    ∀ s ∈ first :: rest, s.group = first.group := by
  cases hother : otherGroup? first.group (first :: rest) with
  | none => exact (otherGroup?_eq_none_iff _ _).mp hother
  | some found =>
      rw [gridSources_of_mixed first rest spacing task found hother] at h
      exact absurd h (by simp only [reduceCtorEq, not_false_eq_true])

/-- Lists of members that all succeed leave one source each, in their order and
    numbered by their places. -/
theorem standIns_ok (task : Nat) (lists : List (List (PointSource α))) :
    ∀ (cell : Nat) (out : List (Source α)), (∀ members ∈ lists, members ≠ []) →
    standIns task cell lists = .ok out →
    List.Forall₂ (fun entry s => StandsFor task entry.2 entry.1 s ∧ ∀ c, s = .cluster c → c.Formed)
      (lists.zipIdx cell) out := by
  induction lists with
  | nil =>
      intro cell out _ h
      rw [standIns, Except.ok.injEq] at h
      rw [← h]
      exact List.Forall₂.nil
  | cons members rest ih =>
      intro cell out hne h
      rw [standIns] at h
      cases hcell : cellSource task cell members with
      | error fault =>
          rw [hcell] at h
          exact absurd h (by simp only [reduceCtorEq, not_false_eq_true])
      | ok source? =>
          rcases cellSource_ok task cell members (hne members List.mem_cons_self) source? hcell with
            ⟨s, hs, hstands⟩
          rw [hcell] at h
          cases hrest : standIns task (cell + 1) rest with
          | error fault =>
              rw [hrest] at h
              exact absurd h (by simp only [reduceCtorEq, not_false_eq_true])
          | ok more =>
              rw [hrest, hs] at h
              simp only [Option.toList_some, List.singleton_append, Except.ok.injEq] at h
              rw [← h, List.zipIdx_cons]
              exact List.Forall₂.cons hstands
                (ih (cell + 1) more (fun ms hms => hne ms (List.mem_cons_of_mem _ hms)) hrest)

/-- Lists of members succeed exactly if the longer ones are uniform. -/
theorem standIns_eq_ok_iff (task : Nat) (lists : List (List (PointSource α))) : ∀ (cell : Nat),
    (∃ out, standIns task cell lists = .ok out) ↔
      ∀ members ∈ lists, 2 ≤ members.length → Uniform members := by
  induction lists with
  | nil =>
      intro cell
      exact ⟨fun _ members hmem => absurd hmem List.not_mem_nil, fun _ => ⟨[], rfl⟩⟩
  | cons members rest ih =>
      intro cell
      rw [List.forall_mem_cons, ← cellSource_eq_ok_iff task cell members, ← ih (cell + 1),
        standIns]
      cases cellSource task cell members with
      | error fault => simp only [reduceCtorEq, exists_false, false_and]
      | ok source? =>
          cases standIns task (cell + 1) rest with
          | error fault => simp only [reduceCtorEq, exists_false, and_false]
          | ok more => exact ⟨fun _ => ⟨⟨_, rfl⟩, ⟨_, rfl⟩⟩, fun _ => ⟨_, rfl⟩⟩

/-- If lists of members fail, one of the longer ones does, and the fault reports
    one of its members. -/
theorem standIns_error (task : Nat) (fault : ClusterFault α)
    (lists : List (List (PointSource α))) : ∀ (cell : Nat),
    standIns task cell lists = .error fault →
    ∃ members ∈ lists, 2 ≤ members.length ∧ ∃ first, members.head? = some first ∧
      ∃ s ∈ members, fault.Reports first s := by
  induction lists with
  | nil =>
      intro cell h
      exact absurd h (by simp only [standIns, reduceCtorEq, not_false_eq_true])
  | cons members rest ih =>
      intro cell h
      rw [standIns] at h
      cases hcell : cellSource task cell members with
      | error found =>
          rw [hcell, Except.error.injEq] at h
          rw [← h]
          exact ⟨members, List.mem_cons_self, cellSource_error task cell members found hcell⟩
      | ok source? =>
          rw [hcell] at h
          cases hrest : standIns task (cell + 1) rest with
          | error found =>
              rw [hrest, Except.error.injEq] at h
              rcases ih (cell + 1) (h ▸ hrest) with ⟨ms, hms, hfound⟩
              exact ⟨ms, List.mem_cons_of_mem _ hms, hfound⟩
          | ok more =>
              rw [hrest] at h
              exact absurd h (by simp only [reduceCtorEq, not_false_eq_true])

/-- Gridding point sources that succeeds had a grid, and leaves one source for
    each occupied cell. -/
theorem gridPoints_ok (km : α) (task : Nat) (pts : List (PointSource α)) (hne : pts ≠ [])
    (out : List (Source α)) (h : gridPoints km task pts = .ok out) :
    Griddable km pts ∧
      List.Forall₂ (fun entry s => StandsFor task entry.2 (membersOf km pts entry.1) s ∧
        ∀ c, s = .cluster c → c.Formed) (occupied km pts).zipIdx out := by
  by_cases hgrid : Griddable km pts
  · refine ⟨hgrid, ?_⟩
    rw [gridPoints_eq km task pts hne hgrid] at h
    cases hcells : standIns task 0 ((occupied km pts).map (membersOf km pts)) with
    | error fault =>
        rw [hcells] at h
        exact absurd h (by simp only [reduceCtorEq, not_false_eq_true])
    | ok found =>
        rw [hcells, Except.ok.injEq] at h
        have hsome : ∀ members ∈ (occupied km pts).map (membersOf km pts), members ≠ [] := by
          intro members hmem
          rcases List.mem_map.mp hmem with ⟨cell, hcell, heq⟩
          rw [← heq]
          exact membersOf_ne_nil km pts cell hcell
        have hall := standIns_ok task _ 0 found hsome hcells
        rw [List.zipIdx_map, List.forall₂_map_left_iff] at hall
        rw [← h]
        exact hall
  · -- Without a grid there are no cells, so nothing is returned.
    rcases cellsOf_eq_error km pts hne hgrid with ⟨fault, hfault⟩
    rw [gridPoints, hfault] at h
    exact absurd h (by simp only [reduceCtorEq, not_false_eq_true])

/-- Over a grid, gridding point sources succeeds exactly if the members of every
    cell with several of them are uniform. -/
theorem gridPoints_eq_ok_iff (km : α) (task : Nat) (pts : List (PointSource α)) (hne : pts ≠ [])
    (h : Griddable km pts) :
    (∃ out, gridPoints km task pts = .ok out) ↔
      ∀ cell ∈ occupied km pts, 2 ≤ (membersOf km pts cell).length →
        Uniform (membersOf km pts cell) := by
  have hcells := standIns_eq_ok_iff task ((occupied km pts).map (membersOf km pts)) 0
  rw [List.forall_mem_map] at hcells
  rw [← hcells, gridPoints_eq km task pts hne h]
  cases standIns task 0 ((occupied km pts).map (membersOf km pts)) with
  | error fault => simp only [reduceCtorEq, exists_false]
  | ok out => exact ⟨fun _ => ⟨out, rfl⟩, fun _ => ⟨out, rfl⟩⟩

section Pair

variable (km : α) (p q : PointSource α) (hplace : q.location.longitude = p.location.longitude ∧
  q.location.latitude = p.location.latitude)

include hplace

/-- Two point sources at one place are in one cell. -/
theorem occupied_pair : occupied km [p, q] = [cellOf km [p, q] p] ∧
    membersOf km [p, q] (cellOf km [p, q] p) = [p, q] := by
  have hsame : cellOf km [p, q] q = cellOf km [p, q] p := by
    rw [cellOf, cellOf, hplace.1, hplace.2]
  constructor
  · rw [occupied, List.map_cons, List.map_cons, List.map_nil, hsame, List.eraseDups_cons]
    simp
  · rw [membersOf, List.filter_eq_self]
    simp only [List.forall_mem_cons, hsame, BEq.rfl, List.not_mem_nil, false_imp_iff, implies_true,
      and_self]

/-- If there is a grid and they are uniform, they become a cluster. -/
theorem gridPoints_pair (task : Nat) (hgrid : Griddable km [p, q]) (huniform : Uniform [p, q]) :
    ∃ c : Cluster α, gridPoints km task [p, q] = .ok [.cluster c] ∧ c.members = [p, q] ∧
      c.id = clusterId task 0 := by
  rcases occupied_pair km p q hplace with ⟨hoccupied, hmembers⟩
  have hcells : ∀ cell ∈ occupied km [p, q], 2 ≤ (membersOf km [p, q] cell).length →
      Uniform (membersOf km [p, q] cell) := by
    rw [hoccupied, List.forall_mem_singleton, hmembers]
    exact fun _ => huniform
  rcases (gridPoints_eq_ok_iff km task [p, q] (List.cons_ne_nil _ _) hgrid).mpr hcells with
    ⟨out, hout⟩
  have hall := (gridPoints_ok km task [p, q] (List.cons_ne_nil _ _) out hout).2
  rw [hoccupied, List.zipIdx_singleton] at hall
  cases hall with
  | cons hstands hnil =>
      cases hnil
      rw [hmembers] at hstands
      rcases hstands.1.exists_cluster (le_refl 2) with ⟨c, hc, hcluster⟩
      rw [hc] at hout
      exact ⟨c, hout, hcluster⟩

end Pair

/-- A source on the equator, with fifty years of occurrence. -/
def onEquator (id : String) (group : Nat) (longitude : α) : PointSource α :=
  { id := id
    name := "equator"
    region := "Stable Shallow Crust"
    recurrence := .arbitrary [5.0] [1.0]
    meshSpacing := 1.0
    scaling := .peer
    aspectRatio := 1.0
    occurrence := some { timeSpan := 50.0 }
    upper := 0.0
    lower := 10.0
    location := { longitude := longitude, latitude := 0.0, depth := 0.0 }
    planes := { entries := [(1.0, { strike := 0.0, dip := 90.0, rake := 0.0 })] }
    depths := { entries := [(1.0, 5.0)] }
    group := group
    modelIndex := 0
    radius := none }

/-- A source of group three where the equator meets the prime meridian. -/
def atOrigin (id : String) : PointSource α := onEquator id 3 0.0

/-- A source of another kind in the same group. -/
def aFault : OtherSource :=
  { id := "fault", name := "fault", region := "Stable Shallow Crust", group := 3, modelIndex := 0 }

theorem meanLatitude_eq (pts : List (PointSource ℝ)) :
    meanLatitude pts = (latitudes pts).sum / pts.length := by
  have hsum : (latitudes pts).foldl (· + ·) 0.0 = (latitudes pts).sum := by
    rw [List.sum_eq_foldl, Exact.zero_eq]
  exact congrArg (· / (pts.length : ℝ)) hsum

/-- The whole equator takes fewer cells of a kilometre than can be counted. -/
theorem cellsNeeded_le (values : List ℝ) (hspan : Axis.span values ≤ 360) :
    Axis.cellsNeeded values (1 * Geodesy.degreesPerKm) ≤ Axis.maxCells := by
  have hwidth : (360 : ℝ) ≤ (100000 : ℕ) * (1 * Geodesy.degreesPerKm) := by
    rw [Geodesy.degreesPerKm]
    norm_num
  have hcells : max ⌈Axis.span values / (1 * Geodesy.degreesPerKm)⌉₊ 1 ≤ 100000 := by
    refine max_le (Nat.ceil_le.mpr ?_) (by decide)
    rw [one_mul, div_le_iff₀ Geodesy.degreesPerKm_pos, ← one_mul Geodesy.degreesPerKm]
    exact hspan.trans hwidth
  rw [Axis.cellsNeeded_eq]
  exact (Nat.cast_le.mpr hcells).trans (by norm_num [Axis.maxCells])

section Equator

variable (pts : List (PointSource ℝ)) (hequator : ∀ s ∈ pts, s.location.latitude = 0)

include hequator

/-- The mean latitude of sources on the equator is that of the equator. -/
theorem deltaX_onEquator (km : ℝ) : deltaX km pts = km * Geodesy.degreesPerKm := by
  have hlatitudes : ∀ y ∈ latitudes pts, y = 0 := List.forall_mem_map.mpr hequator
  refine Geodesy.angularDistance_equator km ?_
  rw [meanLatitude_eq, List.sum_eq_zero hlatitudes, zero_div]

/-- Sources on the equator can be gridded by one kilometre. -/
theorem griddable_onEquator (hne : pts ≠ []) (hspan : Axis.span (longitudes pts) ≤ 360) :
    Griddable 1 pts := by
  have hlatitudes : ∀ y ∈ latitudes pts, y = 0 := List.forall_mem_map.mpr hequator
  have hflat : Axis.span (latitudes pts) = 0 := by
    have hsome : latitudes pts ≠ [] := List.map_eq_nil_iff.not.mpr hne
    rw [Axis.span, hlatitudes _ (Exact.greatest_spec _ hsome).1,
      hlatitudes _ (Exact.least_spec _ hsome).1, sub_self]
  have hX := deltaX_onEquator pts hequator 1
  have hY := Geodesy.angularDistance_equator 1 Exact.zero_eq
  have hpos : (0.0 : ℝ) < 1 * Geodesy.degreesPerKm := by
    rw [one_mul, Exact.zero_eq]
    exact Geodesy.degreesPerKm_pos
  refine ⟨⟨hpos.trans_eq hX.symm, rfl⟩, ⟨hpos.trans_eq hY.symm, rfl⟩, fun _ _ => ⟨rfl, rfl⟩, ?_, ?_⟩
  · exact (congrArg _ hX).trans_le (cellsNeeded_le _ hspan)
  · exact (congrArg _ hY).trans_le (cellsNeeded_le _ (hflat.trans_le (by norm_num)))

end Equator

theorem griddable_pair (a b : String) : Griddable (1 : ℝ) [atOrigin a, atOrigin b] := by
  have hequator : ∀ s ∈ ([atOrigin a, atOrigin b] : List (PointSource ℝ)),
      s.location.latitude = 0 := by
    rw [List.forall_mem_cons, List.forall_mem_singleton]
    exact ⟨Exact.zero_eq, Exact.zero_eq⟩
  have hspan : Axis.span [(0.0 : ℝ), 0.0] = 0 := by
    rw [Axis.span, Exact.greatest_pair, Exact.least_pair, max_self, min_self, sub_self]
  exact griddable_onEquator _ hequator (List.cons_ne_nil _ _) (hspan.trans_le (by norm_num))

/-- A pass over one group that succeeds returns that group only. Without a
    positive spacing its list is the input. Otherwise the other sources come
    first, and then the point sources as they are if there are fewer than two,
    or one source for each occupied cell in the order of the first members:
    the `i`-th stands for the members of the `i`-th cell. -/
theorem gridSources_layout (sources : List (Source α)) (g : Nat) (hne : sources ≠ [])
    (hgroup : ∀ s ∈ sources, s.group = g) (spacing : Option α) (task : Nat)
    (grouped : Grouped (Source α)) (h : gridSources sources spacing task = .ok grouped) :
    ∃ out, grouped = [(g, out)] ∧
      ((∀ km, spacing = some km → ¬ 0.0 < km) → out = sources) ∧
      ∀ km, spacing = some km → 0.0 < km →
        ((points sources).length < 2 →
          out = others sources ++ (points sources).map .point) ∧
        (2 ≤ (points sources).length → ∃ entries,
          out = others sources ++ entries ∧
          List.Forall₂
            (fun cell s => StandsFor task cell.2 (membersOf km (points sources) cell.1) s)
            (occupied km (points sources)).zipIdx entries) := by
  rcases gridSources_ok sources g hne hgroup spacing task grouped h with ⟨out, hout, hcases⟩
  refine ⟨out, hout, ?_⟩
  rcases hcases with ⟨hnone, hinput⟩ | ⟨km, hsome, hcells⟩
  · rw [positive?_eq_none_iff] at hnone
    exact ⟨fun _ => hinput, fun km hkm hpos => absurd hpos (hnone km hkm)⟩
  · rw [positive?_eq_some_iff] at hsome
    refine ⟨fun hnone => absurd hsome.2 (hnone km hsome.1), fun other hother _ => ?_⟩
    have heq : km = other := Option.some.inj (hsome.1.symm.trans hother)
    subst heq
    rcases hcells with ⟨hfew, hmoved⟩ | ⟨hmany, entries, hentries, hjoined⟩
    · exact ⟨fun _ => hmoved, fun hmany => absurd hfew (by omega)⟩
    · have hpts : points sources ≠ [] := List.length_pos_iff.mp (by omega)
      have hstands := (gridPoints_ok km task _ hpts entries hentries).2
      exact ⟨fun hfew => absurd hfew (by omega),
        fun _ => ⟨entries, hjoined, hstands.imp fun _ _ hs => hs.1⟩⟩

/-- Two sources at one place on the equator, behind one that is a degree away. -/
noncomputable def farAndPair : List (PointSource ℝ) :=
  [onEquator "far" 3 1.0, atOrigin "a", atOrigin "b"]

theorem latitude_farAndPair : ∀ s ∈ farAndPair, s.location.latitude = 0 := by
  simp only [farAndPair, List.forall_mem_cons, List.not_mem_nil, false_imp_iff, implies_true,
    and_true]
  exact ⟨Exact.zero_eq, Exact.zero_eq, Exact.zero_eq⟩

theorem griddable_farAndPair : Griddable 1 farAndPair := by
  have hspan : Axis.span [(1.0 : ℝ), 0.0, 0.0] = 1 := by
    rw [Axis.span, Exact.greatest_eq, Exact.least_eq, List.max?_cons', List.min?_cons']
    norm_num
  exact griddable_onEquator _ latitude_farAndPair (List.cons_ne_nil _ _)
    (hspan.trans_le (by norm_num))

/-- The cell of the far source is occupied first, and then that of the two others. -/
theorem occupied_farAndPair : ∃ far near, occupied 1 farAndPair = [far, near] ∧
    membersOf 1 farAndPair far = [onEquator "far" 3 1.0] ∧
    membersOf 1 farAndPair near = [atOrigin "a", atOrigin "b"] := by
  have hsame : cellOf 1 farAndPair (atOrigin "b") = cellOf 1 farAndPair (atOrigin "a") := rfl
  have hapart : cellOf 1 farAndPair (onEquator "far" 3 1.0)
      ≠ cellOf 1 farAndPair (atOrigin "a") := by
    intro hcell
    have hpos : 0 < deltaX 1 farAndPair :=
      Exact.zero_eq.symm.trans_lt griddable_farAndPair.spacingX.1
    have hfar : (1.0 : ℝ) ∈ longitudes farAndPair := List.mem_cons_self
    have hnear : (0.0 : ℝ) ∈ longitudes farAndPair := List.mem_cons_of_mem _ List.mem_cons_self
    have hwidth := Axis.abs_sub_le_delta _ hpos hfar hnear (congrArg Prod.fst hcell)
    -- One degree is more than a cell is wide.
    rw [deltaX_onEquator _ latitude_farAndPair, Geodesy.degreesPerKm] at hwidth
    norm_num at hwidth
  have hothers := beq_false_of_ne hapart
  have hfirst := beq_false_of_ne hapart.symm
  refine ⟨cellOf 1 farAndPair (onEquator "far" 3 1.0), cellOf 1 farAndPair (atOrigin "a"),
    ?_, ?_, ?_⟩
  · change [cellOf 1 farAndPair (onEquator "far" 3 1.0), cellOf 1 farAndPair (atOrigin "a"),
      cellOf 1 farAndPair (atOrigin "b")].eraseDups = _
    simp only [hsame, List.eraseDups_cons, List.filter_cons, hfirst, BEq.rfl, Bool.not_false,
      Bool.not_true, if_true, Bool.false_eq_true, if_false, List.filter_nil, List.eraseDups_nil]
  · change [onEquator "far" 3 (1.0 : ℝ), atOrigin "a", atOrigin "b"].filter
      (fun s => cellOf 1 farAndPair s == cellOf 1 farAndPair (onEquator "far" 3 1.0)) = _
    simp only [List.filter_cons, hsame, hfirst, BEq.rfl, if_true, Bool.false_eq_true, if_false,
      List.filter_nil]
  · change [onEquator "far" 3 (1.0 : ℝ), atOrigin "a", atOrigin "b"].filter
      (fun s => cellOf 1 farAndPair s == cellOf 1 farAndPair (atOrigin "a")) = _
    simp only [List.filter_cons, hsame, hothers, BEq.rfl, if_true, Bool.false_eq_true, if_false,
      List.filter_nil]

/-- A source that is alone in its cell is left, and two sources in one cell become a cluster with
    the number of the cell, behind a source of another kind. -/
theorem gridSources_layout_apart :
    ∃ c : Cluster ℝ, c.members = [atOrigin "a", atOrigin "b"] ∧ c.id = "cps-7-1" ∧
      gridSources [.point (onEquator "far" 3 1.0), .point (atOrigin "a"), .other aFault,
          .point (atOrigin "b")] (some (1 : ℝ)) 7
        = .ok [(3, [.other aFault, .point (onEquator "far" 3 1.0), .cluster c])] := by
  have hpos : (0.0 : ℝ) < 1 := by norm_num
  have hgroup : ∀ s ∈ ([.point (onEquator "far" 3 1.0), .point (atOrigin "a"), .other aFault,
      .point (atOrigin "b")] : List (Source ℝ)), s.group = 3 := by
    simp only [List.forall_mem_cons, List.not_mem_nil, false_imp_iff, implies_true, and_true]
    exact ⟨rfl, rfl, rfl, rfl⟩
  have hpts : points ([.point (onEquator "far" 3 1.0), .point (atOrigin "a"), .other aFault,
      .point (atOrigin "b")] : List (Source ℝ)) = farAndPair := rfl
  have hspan : ((50.0 : ℝ) == 50.0) = true := Exact.beq_self _
  have huniform : Uniform ([atOrigin "a", atOrigin "b"] : List (PointSource ℝ)) :=
    (uniform_pair_iff _ _).mpr ⟨⟨rfl, rfl, hspan⟩, rfl, rfl, hspan⟩
  rcases occupied_farAndPair with ⟨far, near, hoccupied, hfar, hnear⟩
  -- The cluster itself is not written out: that it exists is enough to know the
  -- layout.
  have hcells : ∀ cell ∈ occupied 1 farAndPair, 2 ≤ (membersOf 1 farAndPair cell).length →
      Uniform (membersOf 1 farAndPair cell) := by
    rw [hoccupied, List.forall_mem_cons, List.forall_mem_singleton, hfar, hnear]
    exact ⟨fun hseveral => absurd hseveral (Nat.not_succ_le_self 1), fun _ => huniform⟩
  rcases (gridPoints_eq_ok_iff 1 7 farAndPair (List.cons_ne_nil _ _)
    griddable_farAndPair).mpr hcells with ⟨found, hfound⟩
  have hok : gridSources [.point (onEquator "far" 3 1.0), .point (atOrigin "a"), .other aFault,
      .point (atOrigin "b")] (some (1 : ℝ)) 7 = .ok [(3, [.other aFault] ++ found)] := by
    rw [gridSources_of_many _ 3 (List.cons_ne_nil _ _) hgroup 1 hpos 7
      (show 2 ≤ farAndPair.length by decide), hpts, hfound]
    rfl
  rcases gridSources_layout _ 3 (List.cons_ne_nil _ _) hgroup (some (1 : ℝ)) 7 _ hok with
    ⟨out, hout, _, hlayout⟩
  rcases (hlayout 1 rfl hpos).2 (show 2 ≤ farAndPair.length by decide) with
    ⟨entries, hentries, hall⟩
  rw [hpts, hoccupied, List.zipIdx_cons, List.zipIdx_cons, List.zipIdx_nil] at hall
  rw [hok, hout, hentries]
  cases hall with
  | cons hfirst hrest =>
      cases hrest with
      | cons hsecond hnil =>
          cases hnil
          rw [hfar] at hfirst
          rw [hnear] at hsecond
          rcases hsecond.exists_cluster (le_refl 2) with ⟨c, hc, hmembers, hid⟩
          have hname : clusterId 7 (0 + 1) = "cps-7-1" := by decide
          rw [hfirst.eq_point, hc]
          exact ⟨c, hmembers, hid.trans hname, rfl⟩

end Gridding

end Seismicity
