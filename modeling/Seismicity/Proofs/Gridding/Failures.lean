import Mathlib
import Seismicity.Message
import Seismicity.Proofs.Gridding.Layout

/-!
# How a Pass Fails

Exactly when the gridding pass over sources fails, and in which way.

There are three ways, and they are looked for in this order. Sources of several
groups are refused first, whatever the spacing. Then the grid has to exist, and
only then clusters are formed, where members may differ. The cluster of a cell
compares its members with the first of them alone. That every two of them agree
follows because the comparison is symmetric and transitive, and that agreement
of every two suffices follows because each source agrees with itself; the
latter needs time spans that are numbers.

## Main definitions

* `Gridding.Homogeneous`: Sources that share a cell agree.
* `Gridding.elsewhere`: A source in a region of its own.

## Theorems

* `uniform_iff`: Agreement with the first is agreement of every two.
* `homogeneous_iff`: Homogeneity, cell by cell.
* `gridPoints_of_not_griddable`, `gridPoints_error`: Which failure it is.
* `gridPoints_configuration_iff`, `gridPoints_cluster_iff`: When it is which.
* `gridSources_mixed_iff`, `gridSources_eq_mixed_iff`: Mixed groups.
* `agrees_self`: Time spans that are numbers equal themselves.
* `gridSources_failures`: When and how a pass fails.
* `griddable_origin`: Two sources at one place, in doubles.
-/

namespace Seismicity

namespace Gridding

variable {α : Type} [Scalar α]

/-- Every two point sources in one cell agree on tectonic region type, scaling
    relation and occurrence in time. -/
def Homogeneous (km : α) (pts : List (PointSource α)) : Prop :=
  ∀ p ∈ pts, ∀ q ∈ pts, cellOf km pts p = cellOf km pts q → p.Agrees q

/-- Sources agree with the first exactly if every two of them agree. -/
theorem uniform_iff [PartialEquivBEq α] (members : List (PointSource α)) :
    Uniform members ↔ ∀ p ∈ members, ∀ q ∈ members, p.Agrees q := by
  cases members with
  | nil => exact ⟨fun _ p hp => absurd hp List.not_mem_nil, fun _ first hfirst => nomatch hfirst⟩
  | cons first rest =>
      rw [uniform_cons_iff]
      constructor
      · -- Any two are compared by way of the first.
        intro h p hp q hq
        exact (h p hp).symm.trans (h q hq)
      · intro h
        exact h first List.mem_cons_self

/-- Sources are homogeneous exactly if the members of each cell with several of
    them are uniform. -/
theorem homogeneous_iff [PartialEquivBEq α] (km : α) (pts : List (PointSource α))
    (hself : ∀ s ∈ pts, s.Agrees s) :
    Homogeneous km pts ↔
      ∀ cell ∈ occupied km pts, 2 ≤ (membersOf km pts cell).length →
        Uniform (membersOf km pts cell) := by
  constructor
  · intro h cell _ _
    rw [uniform_iff]
    intro p hp q hq
    rw [mem_membersOf] at hp hq
    exact h p hp.1 q hq.1 (hp.2.trans hq.2.symm)
  · intro h p hp q hq hcell
    have hpm := (mem_membersOf km pts (cellOf km pts q) p).mpr ⟨hp, hcell⟩
    have hqm := (mem_membersOf km pts (cellOf km pts q) q).mpr ⟨hq, rfl⟩
    by_cases hlen : 2 ≤ (membersOf km pts (cellOf km pts q)).length
    · exact (uniform_iff _).mp (h _ ((mem_occupied km pts _).mpr ⟨q, hq, rfl⟩) hlen) p hpm q hqm
    · -- The two are the only member of the cell.
      have hpos := List.length_pos_of_mem hqm
      rcases List.length_eq_one_iff.mp (Nat.le_antisymm (by omega) hpos) with ⟨s, hs⟩
      rw [hs, List.mem_singleton] at hpm hqm
      rw [hpm, ← hqm]
      exact hself q hq

/-- Without a grid, gridding point sources fails for the configuration. -/
theorem gridPoints_of_not_griddable (km : α) (task : Nat) (pts : List (PointSource α))
    (hne : pts ≠ []) (h : ¬ Griddable km pts) :
    ∃ fault, gridPoints km task pts = .error (.binning fault) := by
  rcases cellsOf_eq_error km pts hne h with ⟨fault, hfault⟩
  refine ⟨fault, ?_⟩
  rw [gridPoints, hfault]

/-- Over a grid, gridding point sources fails for members of a cell only, and the
    fault reports one of them. -/
theorem gridPoints_error (km : α) (task : Nat) (pts : List (PointSource α)) (hne : pts ≠ [])
    (h : Griddable km pts) (failure : Failure α)
    (hfailure : gridPoints km task pts = .error failure) :
    ∃ fault, failure = .cluster fault ∧
      ∃ cell ∈ occupied km pts, 2 ≤ (membersOf km pts cell).length ∧
        ∃ p ∈ membersOf km pts cell, ∃ q ∈ membersOf km pts cell, fault.Reports p q := by
  rw [gridPoints_eq km task pts hne h] at hfailure
  cases hcells : standIns task 0 ((occupied km pts).map (membersOf km pts)) with
  | ok out =>
      rw [hcells] at hfailure
      exact absurd hfailure (by simp only [reduceCtorEq, not_false_eq_true])
  | error fault =>
      rw [hcells, Except.error.injEq] at hfailure
      rcases standIns_error task fault _ 0 hcells with
        ⟨members, hmembers, hlen, first, hfirst, s, hs, hreports⟩
      rcases List.mem_map.mp hmembers with ⟨cell, hcell, heq⟩
      rw [← heq] at hlen hfirst hs
      exact ⟨fault, hfailure.symm, cell, hcell, hlen, first, List.mem_of_mem_head? hfirst, s, hs,
        hreports⟩

/-- Gridding point sources fails for the configuration exactly if there is no
    grid. -/
theorem gridPoints_configuration_iff (km : α) (task : Nat) (pts : List (PointSource α))
    (hne : pts ≠ []) :
    (∃ failure, gridPoints km task pts = .error failure ∧ failure.category = .configuration) ↔
      ¬ Griddable km pts := by
  constructor
  · rintro ⟨failure, hfailure, hcategory⟩ hgrid
    rcases gridPoints_error km task pts hne hgrid failure hfailure with ⟨fault, heq, _⟩
    rw [heq] at hcategory
    exact absurd hcategory (by simp only [Failure.category, reduceCtorEq, not_false_eq_true])
  · intro hgrid
    rcases gridPoints_of_not_griddable km task pts hne hgrid with ⟨fault, hfault⟩
    exact ⟨.binning fault, hfault, rfl⟩

/-- Over a grid, gridding point sources fails for a cluster exactly if two of
    them share a cell and do not agree. -/
theorem gridPoints_cluster_iff [PartialEquivBEq α] (km : α) (task : Nat)
    (pts : List (PointSource α)) (hne : pts ≠ []) (hself : ∀ s ∈ pts, s.Agrees s)
    (h : Griddable km pts) :
    (∃ failure, gridPoints km task pts = .error failure ∧ failure.category = .cluster) ↔
      ∃ p ∈ pts, ∃ q ∈ pts, cellOf km pts p = cellOf km pts q ∧ ¬ p.Agrees q := by
  constructor
  · rintro ⟨failure, hfailure, _⟩
    rcases gridPoints_error km task pts hne h failure hfailure with
      ⟨fault, _, cell, _, _, p, hp, q, hq, hreports⟩
    rw [mem_membersOf] at hp hq
    exact ⟨p, hp.1, q, hq.1, hp.2.trans hq.2.symm, hreports.not_agrees⟩
  · rintro ⟨p, hp, q, hq, hcell, hnot⟩
    cases hpoints : gridPoints km task pts with
    | ok out =>
        -- Had no cell failed, all sources that share one would agree.
        have huniform := (gridPoints_eq_ok_iff km task pts hne h).mp ⟨out, hpoints⟩
        have hall := (homogeneous_iff km pts hself).mpr huniform
        exact absurd (hall p hp q hq hcell) hnot
    | error failure =>
        rcases gridPoints_error km task pts hne h failure hpoints with ⟨fault, heq, _⟩
        exact ⟨failure, rfl, heq ▸ rfl⟩

/-- A pass without a positive spacing, or with fewer than two point sources,
    succeeds. -/
theorem gridSources_ok_of_short (sources : List (Source α)) (g : Nat) (hne : sources ≠ [])
    (hgroup : ∀ s ∈ sources, s.group = g) (spacing : Option α) (task : Nat)
    (h : (∀ km, spacing = some km → ¬ 0.0 < km) ∨ (points sources).length < 2) :
    ∃ grouped, gridSources sources spacing task = .ok grouped := by
  by_cases hnone : ∀ km, spacing = some km → ¬ 0.0 < km
  · exact ⟨_, gridSources_of_none sources g hne hgroup spacing task hnone⟩
  · simp only [not_forall, not_not, exists_prop] at hnone
    rcases hnone with ⟨km, hspacing, hkm⟩
    have hfew : (points sources).length < 2 :=
      h.resolve_left fun hno => absurd hkm (hno km hspacing)
    rw [hspacing]
    exact ⟨_, gridSources_of_few sources g hne hgroup km hkm task hfew⟩

/-- A pass over two or more point sources of one group fails as gridding them
    does. -/
theorem gridSources_eq_error_iff (sources : List (Source α)) (g : Nat) (hne : sources ≠ [])
    (hgroup : ∀ s ∈ sources, s.group = g) (km : α) (hkm : 0.0 < km) (task : Nat)
    (hmany : 2 ≤ (points sources).length) (failure : Failure α) :
    gridSources sources (some km) task = .error failure ↔
      gridPoints km task (points sources) = .error failure := by
  rw [gridSources_of_many sources g hne hgroup km hkm task hmany]
  cases gridPoints km task (points sources) with
  | ok out => simp only [reduceCtorEq]
  | error found => simp only [Except.error.injEq]

theorem gridSources_eq_ok_iff (sources : List (Source α)) (g : Nat) (hne : sources ≠ [])
    (hgroup : ∀ s ∈ sources, s.group = g) (km : α) (hkm : 0.0 < km) (task : Nat)
    (hmany : 2 ≤ (points sources).length) :
    (∃ grouped, gridSources sources (some km) task = .ok grouped) ↔
      ∃ out, gridPoints km task (points sources) = .ok out := by
  rw [gridSources_of_many sources g hne hgroup km hkm task hmany]
  cases gridPoints km task (points sources) with
  | ok out => exact ⟨fun _ => ⟨out, rfl⟩, fun _ => ⟨_, rfl⟩⟩
  | error found => simp only [reduceCtorEq, exists_false]

/-- A pass reports mixed groups with the group of the first source and that of
    the first source that differs from it. -/
theorem gridSources_eq_mixed_iff (first : Source α) (rest : List (Source α)) (spacing : Option α)
    (task expected found : Nat) :
    gridSources (first :: rest) spacing task = .error (.mixedGroups expected found) ↔
      expected = first.group ∧ otherGroup? first.group (first :: rest) = some found := by
  cases hother : otherGroup? first.group (first :: rest) with
  | some other =>
      rw [gridSources_of_mixed first rest spacing task other hother, Except.error.injEq,
        Failure.mixedGroups.injEq, Option.some.injEq]
      exact and_congr_left fun _ => eq_comm
  | none =>
      have hgroup := (otherGroup?_eq_none_iff _ _).mp hother
      simp only [reduceCtorEq, and_false, iff_false]
      exact gridSources_ne_mixed _ _ (List.cons_ne_nil _ _) hgroup spacing task expected found

/-- A pass reports mixed groups exactly if some source is of another group than
    the first. -/
theorem gridSources_mixed_iff (first : Source α) (rest : List (Source α)) (spacing : Option α)
    (task : Nat) :
    (∃ expected found, gridSources (first :: rest) spacing task
      = .error (.mixedGroups expected found)) ↔ ∃ s ∈ first :: rest, s.group ≠ first.group := by
  simp only [gridSources_eq_mixed_iff]
  constructor
  · rintro ⟨expected, found, _, hother⟩
    rcases (otherGroup?_eq_some_iff _ _ _).mp hother with ⟨before, s, after, heq, _, hne, _⟩
    exact ⟨s, heq ▸ List.mem_append_right _ List.mem_cons_self, hne⟩
  · rintro ⟨s, hs, hne⟩
    cases hother : otherGroup? first.group (first :: rest) with
    | none => exact absurd ((otherGroup?_eq_none_iff _ _).mp hother s hs) hne
    | some found => exact ⟨first.group, found, rfl, rfl⟩

/-- A source agrees with itself if its time span is a number. -/
theorem agrees_self (s : PointSource Float)
    (h : ∀ tom, s.occurrence = some tom → tom.timeSpan.isNaN = false) : s.Agrees s := by
  refine ⟨rfl, rfl, ?_⟩
  cases hocc : s.occurrence with
  | none => rfl
  | some tom =>
      have hnumber := h tom hocc
      rw [Float.isNaN_eq_decide_eq_nan, decide_eq_false_iff_not] at hnumber
      exact Float.beq_self_iff.mpr hnumber

/-- When and how a pass over sources fails whose time spans are numbers.

    It reports mixed groups exactly if the groups are not all equal, whatever the
    spacing: those of the first source and of the first that differs. Otherwise
    it succeeds without a positive spacing or with fewer than two point sources.
    Otherwise the configuration is at fault exactly if no grid can be laid out.
    Otherwise a cluster is at fault exactly if two point sources in one cell do
    not agree, and the pass succeeds exactly if all of them do. What is reported
    is a difference between members of a cell that has at least two. -/
theorem gridSources_failures (sources : List (Source Float)) (first : Source Float)
    (hfirst : sources.head? = some first) (spacing : Option Float) (task : Nat)
    (hspan : ∀ s ∈ points sources, ∀ tom, s.occurrence = some tom →
      tom.timeSpan.isNaN = false) :
    ((∃ expected found, gridSources sources spacing task
        = .error (.mixedGroups expected found)) ↔ ∃ s ∈ sources, s.group ≠ first.group) ∧
    (∀ expected found, gridSources sources spacing task
        = .error (.mixedGroups expected found) ↔
      expected = first.group ∧ ∃ before s after, sources = before ++ s :: after ∧
        (∀ t ∈ before, t.group = first.group) ∧ s.group ≠ first.group ∧ s.group = found) ∧
    ((∀ s ∈ sources, s.group = first.group) →
      ((∀ km, spacing = some km → ¬ 0.0 < km) ∨ (points sources).length < 2 →
        ∃ grouped, gridSources sources spacing task = .ok grouped) ∧
      ∀ km, spacing = some km → 0.0 < km → 2 ≤ (points sources).length →
        ((∃ failure, gridSources sources spacing task = .error failure ∧
            failure.category = .configuration) ↔ ¬ Griddable km (points sources)) ∧
        (Griddable km (points sources) →
          ((∃ failure, gridSources sources spacing task = .error failure ∧
              failure.category = .cluster) ↔
            ∃ p ∈ points sources, ∃ q ∈ points sources,
              cellOf km (points sources) p = cellOf km (points sources) q ∧ ¬ p.Agrees q) ∧
          ((∃ grouped, gridSources sources spacing task = .ok grouped) ↔
            Homogeneous km (points sources)) ∧
          ∀ failure, gridSources sources spacing task = .error failure →
            ∃ fault, failure = .cluster fault ∧ ∃ cell ∈ occupied km (points sources),
              2 ≤ (membersOf km (points sources) cell).length ∧
              ∃ p ∈ membersOf km (points sources) cell,
                ∃ q ∈ membersOf km (points sources) cell, fault.Reports p q)) := by
  cases sources with
  | nil => exact absurd hfirst (by simp only [List.head?_nil, reduceCtorEq, not_false_eq_true])
  | cons head rest =>
      rw [List.head?_cons, Option.some.injEq] at hfirst
      subst hfirst
      have hne : head :: rest ≠ [] := List.cons_ne_nil head rest
      refine ⟨gridSources_mixed_iff head rest spacing task, fun expected found => ?_,
        fun hgroup => ⟨?_, ?_⟩⟩
      · rw [gridSources_eq_mixed_iff, otherGroup?_eq_some_iff]
      · intro hshort
        exact gridSources_ok_of_short _ head.group hne hgroup spacing task hshort
      · intro km hspacing hkm hmany
        have hsome : points (head :: rest) ≠ [] := List.length_pos_iff.mp (by omega)
        have hself : ∀ s ∈ points (head :: rest), s.Agrees s :=
          fun s hs => agrees_self s (hspan s hs)
        rw [hspacing]
        simp only [gridSources_eq_error_iff _ head.group hne hgroup km hkm task hmany]
        refine ⟨gridPoints_configuration_iff km task _ hsome, fun hgrid => ⟨?_, ?_, ?_⟩⟩
        · exact gridPoints_cluster_iff km task _ hsome hself hgrid
        · rw [gridSources_eq_ok_iff _ head.group hne hgroup km hkm task hmany,
            gridPoints_eq_ok_iff km task _ hsome hgrid, homogeneous_iff km _ hself]
        · exact gridPoints_error km task _ hsome hgrid

section Doubles

variable (hcos : Float.cos 0.0 = 1.0)

include hcos

/-- The degrees of a distance on the equator. The cosine of a double is not computed here. -/
theorem angularDistance_of_cos (km : Float) :
    Geodesy.angularDistance km 0.0 = km * 0.0089932 / 1.0 := by
  have hangle : Scalar.toRadians (0.0 : Float) = 0.0 := by decide
  have hunit : Scalar.cos (Scalar.toRadians (0.0 : Float)) = 1.0 := by
    rw [hangle]
    exact hcos
  rw [Geodesy.angularDistance, hunit]
  rfl

/-- Two sources where the equator meets the prime meridian can be gridded by ten kilometres. -/
theorem griddable_origin (p q : PointSource Float)
    (hp : p.location.longitude = 0.0 ∧ p.location.latitude = 0.0)
    (hq : q.location.longitude = 0.0 ∧ q.location.latitude = 0.0) : Griddable 10.0 [p, q] := by
  have hdegrees := angularDistance_of_cos hcos 10.0
  have hmean : meanLatitude [p, q] = 0.0 := by
    change (0.0 + p.location.latitude + q.location.latitude) / Float.ofNat 2 = 0.0
    rw [hp.2, hq.2]
    decide
  have hlongitudes : longitudes [p, q] = [0.0, 0.0] := by
    rw [longitudes, List.map_cons, List.map_singleton, hp.1, hq.1]
  have hlatitudes : latitudes [p, q] = [0.0, 0.0] := by
    rw [latitudes, List.map_cons, List.map_singleton, hp.2, hq.2]
  -- With the cosine replaced by its value, what is left is computed.
  have hcounted : Axis.cellsNeeded [(0.0 : Float), 0.0] (10.0 * 0.0089932 / 1.0)
      ≤ Axis.maxCells := by decide +kernel
  constructor
  · rw [hmean, hdegrees]
    decide
  · rw [hdegrees]
    decide
  · rw [List.forall_mem_cons, List.forall_mem_singleton, hp.1, hp.2, hq.1, hq.2]
    decide
  · rw [hmean, hdegrees, hlongitudes]
    exact hcounted
  · rw [hdegrees, hlatitudes]
    exact hcounted

end Doubles

/-- Fifty years are a number. -/
theorem timeSpan_of_fifty (p q : PointSource Float) (hp : p.occurrence = some { timeSpan := 50.0 })
    (hq : q.occurrence = some { timeSpan := 50.0 }) :
    ∀ s ∈ points [Source.point p, .point q], ∀ tom, s.occurrence = some tom →
      tom.timeSpan.isNaN = false := by
  change ∀ s ∈ [p, q], _
  have hnumber : ∀ tom : Poisson Float, some { timeSpan := 50.0 } = some tom →
      tom.timeSpan.isNaN = false := by
    intro tom h
    rw [← Option.some.inj h]
    decide
  rw [List.forall_mem_cons, List.forall_mem_singleton, hp, hq]
  exact ⟨hnumber, hnumber⟩

/-- A source on the equator in a region of its own. -/
def elsewhere : PointSource Float := { onEquator "b" 3 0.0 with region := "Volcanic" }

/-- Sources of groups three and four are mixed, and two sources of group three of
    which one is infinitely far away cannot be gridded. Two sources at one place can, if the
    cosine of zero is one. They pass if they agree, and if they are of two regions the cluster
    is at fault. -/
theorem gridSources_failures_onEquator :
    gridSources [.point (onEquator "a" 3 0.0), .point (onEquator "b" 4 Double.infinity)]
        (some 10.0) 7 = .error (.mixedGroups 3 4) ∧
    (∃ failure,
      gridSources [.point (onEquator "a" 3 0.0), .point (onEquator "b" 3 Double.infinity)]
        (some 10.0) 7 = .error failure ∧ failure.category = .configuration) ∧
    (Float.cos 0.0 = 1.0 →
      (∃ grouped, gridSources [.point (onEquator "a" 3 0.0), .point (onEquator "b" 3 0.0)]
        (some 10.0) 7 = .ok grouped) ∧
      ∃ failure, gridSources [.point (onEquator "a" 3 0.0), .point elsewhere] (some 10.0) 7
        = .error failure ∧ failure.category = .cluster) := by
  have hgroup : ∀ q : PointSource Float, q.group = 3 →
      ∀ s ∈ [Source.point (onEquator "a" 3 0.0), .point q], s.group = 3 := by
    intro q hq
    rw [List.forall_mem_cons, List.forall_mem_singleton]
    exact ⟨rfl, hq⟩
  -- What is left of the theorem for two sources of group three.
  have hpass (q : PointSource Float) (hspan : q.occurrence = some { timeSpan := 50.0 })
      (hq : q.group = 3) :=
    ((gridSources_failures [.point (onEquator "a" 3 0.0), .point q] _ rfl (some 10.0) 7
      (timeSpan_of_fifty _ q rfl hspan)).2.2 (hgroup q hq)).2 10.0 rfl (by decide) (le_refl 2)
  refine ⟨?_, ?_, fun hcos => ⟨?_, ?_⟩⟩
  · refine ((gridSources_failures _ _ rfl (some 10.0) 7
      (timeSpan_of_fifty _ _ rfl rfl)).2.1 3 4).mpr ⟨rfl, ?_⟩
    refine ⟨[.point (onEquator "a" 3 0.0)], .point (onEquator "b" 4 Double.infinity), [], rfl,
      ?_, ?_, rfl⟩
    · rw [List.forall_mem_singleton]
    · decide
  · refine (hpass (onEquator "b" 3 Double.infinity) rfl rfl).1.mpr fun hgrid => ?_
    have hfinite := (hgrid.coordinates (onEquator "b" 3 Double.infinity)
      (List.mem_cons_of_mem _ List.mem_cons_self)).1
    exact absurd hfinite (by decide)
  · have hgrid := griddable_origin hcos (onEquator "a" 3 0.0) (onEquator "b" 3 0.0) ⟨rfl, rfl⟩
      ⟨rfl, rfl⟩
    have huniform : Uniform [onEquator "a" 3 0.0, onEquator "b" 3 (0.0 : Float)] :=
      (uniform_pair_iff _ _).mpr ⟨⟨rfl, rfl, by decide⟩, rfl, rfl, by decide⟩
    exact ((hpass (onEquator "b" 3 0.0) rfl rfl).2 hgrid).2.1.mpr fun p hp q hq _ =>
      (uniform_iff _).mp huniform p hp q hq
  · have hgrid := griddable_origin hcos (onEquator "a" 3 0.0) elsewhere ⟨rfl, rfl⟩ ⟨rfl, rfl⟩
    refine ((hpass elsewhere rfl rfl).2 hgrid).1.mpr ⟨onEquator "a" 3 0.0, List.mem_cons_self,
      elsewhere, List.mem_cons_of_mem _ List.mem_cons_self, rfl, fun hagrees => ?_⟩
    exact absurd hagrees.region (by decide)

end Gridding

end Seismicity
