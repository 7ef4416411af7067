import Seismicity.Source.Cluster

/-!
# Agreement of Cluster Members

When point sources form a cluster, and what its refusal tells. The checks are
made in two places: region and scaling relation of each further source before
the geometry is averaged, and the occurrence in time of every source after it.
Each compares with the first source only. `Agrees` is the relation that the two
checks decide together, and `Reports` says that a fault names a source, the
first source, and a property in which the two really differ.

The occurrence of the first source is compared with itself. That comparison
fails for a time span that is not a number, so a cluster may be refused although
its members differ in nothing; `form_eq_ok_iff` keeps the first source among
those that have to agree.

## Main definitions

* `PointSource.Agrees`: Agreement with the first source of a cluster.
* `ClusterFault.Reports`: A fault tells how one source differs from another.
* `Cluster.fault?`: Why sources do not form a cluster.
* `Cluster.ofMembers`: The cluster of sources with nothing wrong with them.
* `Cluster.Formed`: A cluster agrees with its members.

## Theorems

* `PointSource.Agrees.symm`, `PointSource.Agrees.trans`: Agreement of sources
  whose numbers are compared symmetrically and transitively.
* `mismatch?_eq_none_iff`, `mismatch?_reports`: The check of one source.
* `Cluster.form_cons`: Forming a cluster, with its checks in one place.
* `Cluster.form_eq_ok_iff`: Sources form a cluster exactly if they agree.
* `Cluster.form_ok`: A cluster holds its members and takes the first one's tags.
* `Cluster.Formed.agrees`, `Cluster.Formed.group`: Tags are those of the members.
* `Cluster.form_error`: A refusal reports a difference.
-/

namespace Seismicity

variable {α : Type} [Scalar α]

/-- A source agrees with the first of its cluster on tectonic region type,
    scaling relation and occurrence in time. -/
structure PointSource.Agrees (first s : PointSource α) : Prop where
  region : s.region = first.region
  scaling : s.scaling = first.scaling
  occurrence : (s.occurrence == first.occurrence) = true

theorem Poisson.beq_eq {β : Type} [BEq β] (x y : Poisson β) :
    (x == y) = (x.timeSpan == y.timeSpan) :=
  rfl

/-- Occurrences are compared symmetrically and transitively if numbers are. -/
instance Poisson.partialEquivBEq {β : Type} [BEq β] [PartialEquivBEq β] :
    PartialEquivBEq (Poisson β) where
  symm {x y} h := by
    rw [Poisson.beq_eq] at h ⊢
    exact BEq.symm h
  trans {x y z} h h' := by
    rw [Poisson.beq_eq] at h h' ⊢
    exact BEq.trans h h'

instance Poisson.optionPartialEquivBEq {β : Type} [BEq β] [PartialEquivBEq β] :
    PartialEquivBEq (Option β) where
  symm {x y} h := by
    cases x with
    | none =>
        cases y with
        | none => rfl
        | some b => exact absurd h Bool.false_ne_true
    | some a =>
        cases y with
        | none => exact absurd h Bool.false_ne_true
        | some b =>
            rw [Option.some_beq_some] at h ⊢
            exact BEq.symm h
  trans {x y z} h h' := by
    cases x with
    | none =>
        cases y with
        | none => exact h'
        | some b => exact absurd h Bool.false_ne_true
    | some a =>
        cases y with
        | none => exact absurd h Bool.false_ne_true
        | some b =>
            cases z with
            | none => exact absurd h' Bool.false_ne_true
            | some c =>
                rw [Option.some_beq_some] at h h' ⊢
                exact BEq.trans h h'

theorem PointSource.Agrees.symm [PartialEquivBEq α] {s t : PointSource α} (h : s.Agrees t) :
    t.Agrees s :=
  ⟨h.region.symm, h.scaling.symm, BEq.symm h.occurrence⟩

theorem PointSource.Agrees.trans [PartialEquivBEq α] {s t u : PointSource α} (h : s.Agrees t)
    (h' : t.Agrees u) : s.Agrees u :=
  ⟨h'.region.trans h.region, h'.scaling.trans h.scaling, BEq.trans h'.occurrence h.occurrence⟩

/-- The fault names the source `s`, the source `first` that it is compared with,
    and a property in which the two differ. -/
def ClusterFault.Reports (first s : PointSource α) : ClusterFault α → Prop
  | .empty => False
  | .region id found expected name =>
    s.region ≠ first.region ∧
      id = s.id ∧ found = s.region ∧ expected = first.region ∧ name = first.id
  | .scaling id found expected name =>
    s.scaling ≠ first.scaling ∧
      id = s.id ∧ found = s.scaling ∧ expected = first.scaling ∧ name = first.id
  | .occurrence id found expected name =>
    (s.occurrence == first.occurrence) = false ∧
      id = s.id ∧ found = s.occurrence ∧ expected = first.occurrence ∧ name = first.id

/-- A fault is reported of sources that do not agree. -/
theorem ClusterFault.Reports.not_agrees {first s : PointSource α} {fault : ClusterFault α}
    (h : fault.Reports first s) : ¬ first.Agrees s := by
  intro hag
  cases fault with
  | empty => exact h
  | region => exact h.1 hag.region
  | scaling => exact h.1 hag.scaling
  | occurrence =>
      have hocc := h.1
      rw [hag.occurrence] at hocc
      exact absurd hocc (by simp only [Bool.true_eq_false, not_false_eq_true])

namespace AverageGeometry

omit [Scalar α] in
theorem mismatch?_eq_none_iff (first s : PointSource α) :
    mismatch? first s = none ↔ s.region = first.region ∧ s.scaling = first.scaling := by
  unfold mismatch?
  by_cases hregion : s.region = first.region
  · by_cases hscaling : s.scaling = first.scaling
    · simp only [hregion, hscaling, bne_self_eq_false, Bool.false_eq_true, if_false, and_self]
    · simp only [hregion, hscaling, bne_self_eq_false, Bool.false_eq_true, if_false, bne_iff_ne,
        ne_eq, not_false_eq_true, if_true, reduceCtorEq, and_false]
  · simp only [hregion, bne_iff_ne, ne_eq, not_false_eq_true, if_true, reduceCtorEq, false_and]

/-- A mismatch is reported of the two sources. -/
theorem mismatch?_reports (first s : PointSource α) (fault : ClusterFault α)
    (h : mismatch? first s = some fault) : fault.Reports first s := by
  unfold mismatch? at h
  by_cases hregion : s.region = first.region
  · by_cases hscaling : s.scaling = first.scaling
    · simp only [hregion, hscaling, bne_self_eq_false, Bool.false_eq_true, if_false,
        reduceCtorEq] at h
    · rw [if_neg (by simp only [hregion, bne_self_eq_false, Bool.false_eq_true,
          not_false_eq_true]), if_pos (by simp only [bne_iff_ne, ne_eq, hscaling,
          not_false_eq_true]), Option.some.injEq] at h
      rw [← h]
      exact ⟨hscaling, rfl, rfl, rfl, rfl⟩
  · rw [if_pos (by simp only [bne_iff_ne, ne_eq, hregion, not_false_eq_true]),
      Option.some.injEq] at h
    rw [← h]
    exact ⟨hregion, rfl, rfl, rfl, rfl⟩

end AverageGeometry

namespace Cluster

/-- Why sources do not form a cluster: the first fault of either check. -/
def fault? (members : List (PointSource α)) : Option (ClusterFault α) :=
  (AverageGeometry.fault? members).or (occurrenceFault? members)

/-- The cluster that sources form if nothing is wrong with them. -/
def ofMembers (id : String) (first : PointSource α) (rest : List (PointSource α)) : Cluster α :=
  { id := id
    group := first.group
    modelIndex := first.modelIndex
    region := first.region
    scaling := first.scaling
    occurrence := first.occurrence
    geometry := AverageGeometry.meanOf (first :: rest)
    members := first :: rest
    radius := none }

theorem form_cons (id : String) (first : PointSource α) (rest : List (PointSource α)) :
    form id (first :: rest) =
      match fault? (first :: rest) with
      | some fault => .error fault
      | none => .ok (ofMembers id first rest) := by
  cases hgeometry : AverageGeometry.fault? (first :: rest) with
  | some fault => simp only [form, fault?, AverageGeometry.of, hgeometry, Option.some_or]
  | none =>
      simp only [form, fault?, AverageGeometry.of, hgeometry, Option.none_or]
      cases occurrenceFault? (first :: rest) with
      | some fault => rfl
      | none => rfl

/-- Nothing is wrong with sources exactly if all of them agree with the first,
    which has to agree with itself. -/
theorem fault?_eq_none_iff (first : PointSource α) (rest : List (PointSource α)) :
    fault? (first :: rest) = none ↔ ∀ s ∈ first :: rest, first.Agrees s := by
  simp only [fault?, Option.or_eq_none_iff, AverageGeometry.fault?, List.findSome?_eq_none_iff,
    AverageGeometry.mismatch?_eq_none_iff, occurrenceFault?, Option.map_eq_none_iff,
    List.find?_eq_none, Bool.not_eq_eq_eq_not, Bool.not_true, Bool.not_eq_false]
  constructor
  · intro h s hs
    have hocc := h.2 s hs
    rcases List.mem_cons.mp hs with heq | hrest
    · -- Region and scaling relation of the first source are not checked at all.
      subst heq
      exact ⟨rfl, rfl, hocc⟩
    · exact ⟨(h.1 s hrest).1, (h.1 s hrest).2, hocc⟩
  · intro h
    refine ⟨fun s hs => ?_, fun s hs => (h s hs).occurrence⟩
    have hag := h s (List.mem_cons_of_mem first hs)
    exact ⟨hag.region, hag.scaling⟩

/-- What is wrong with sources is reported of one of them. -/
theorem fault?_reports (first : PointSource α) (rest : List (PointSource α))
    (fault : ClusterFault α) (h : fault? (first :: rest) = some fault) :
    ∃ s ∈ first :: rest, fault.Reports first s := by
  rw [fault?, Option.or_eq_some_iff] at h
  -- The occurrence is looked at only if the geometry is not at fault.
  rcases h with hgeometry | ⟨_, hoccurrence⟩
  · rcases List.exists_of_findSome?_eq_some hgeometry with ⟨s, hs, hmis⟩
    exact ⟨s, List.mem_cons_of_mem first hs, AverageGeometry.mismatch?_reports first s fault hmis⟩
  · rw [occurrenceFault?, Option.map_eq_some_iff] at hoccurrence
    rcases hoccurrence with ⟨s, hfind, hfault⟩
    have hdiffers := List.find?_some hfind
    rw [Bool.not_eq_true'] at hdiffers
    rw [← hfault]
    exact ⟨s, List.mem_of_find?_eq_some hfind, hdiffers, rfl, rfl, rfl, rfl⟩

theorem form_eq_ok_iff (id : String) (first : PointSource α) (rest : List (PointSource α)) :
    (∃ c, form id (first :: rest) = .ok c) ↔ ∀ s ∈ first :: rest, first.Agrees s := by
  rw [← fault?_eq_none_iff, form_cons]
  cases fault? (first :: rest) with
  | some fault => simp only [reduceCtorEq, exists_false]
  | none => exact ⟨fun _ => rfl, fun _ => ⟨_, rfl⟩⟩

/-- The cluster has the tags of its first member, with which all members
    agree. -/
def Formed (c : Cluster α) : Prop :=
  ∃ first rest, c = ofMembers c.id first rest ∧ ∀ s ∈ first :: rest, first.Agrees s

/-- A cluster that was formed holds the sources it was formed from, and is named
    as asked. -/
theorem form_ok (id : String) (members : List (PointSource α)) (c : Cluster α)
    (h : form id members = .ok c) : c.id = id ∧ c.members = members ∧ c.Formed := by
  cases members with
  | nil =>
      simp only [form, AverageGeometry.of, AverageGeometry.fault?, reduceCtorEq] at h
  | cons first rest =>
      have hagree := (form_eq_ok_iff id first rest).mp ⟨c, h⟩
      rw [form_cons, (fault?_eq_none_iff first rest).mpr hagree, Except.ok.injEq] at h
      rw [← h]
      exact ⟨rfl, rfl, first, rest, rfl, hagree⟩

/-- The members of a cluster have its region, scaling relation and occurrence in
    time. -/
theorem Formed.agrees {c : Cluster α} (h : c.Formed) (s : PointSource α) (hs : s ∈ c.members) :
    s.region = c.region ∧ s.scaling = c.scaling ∧ (s.occurrence == c.occurrence) = true := by
  rcases h with ⟨first, rest, hc, hagree⟩
  rw [hc] at hs ⊢
  exact ⟨(hagree s hs).region, (hagree s hs).scaling, (hagree s hs).occurrence⟩

/-- The group of a cluster is that of its members, if they share one. -/
theorem Formed.group {c : Cluster α} (h : c.Formed) (g : Nat)
    (hg : ∀ s ∈ c.members, s.group = g) : c.group = g := by
  rcases h with ⟨first, rest, hc, _⟩
  rw [hc] at hg ⊢
  exact hg first List.mem_cons_self

/-- A refusal to form a cluster reports a difference from the first source. -/
theorem form_error (id : String) (first : PointSource α) (rest : List (PointSource α))
    (fault : ClusterFault α) (h : form id (first :: rest) = .error fault) :
    ∃ s ∈ first :: rest, fault.Reports first s := by
  rw [form_cons] at h
  cases hfault : fault? (first :: rest) with
  | some found =>
      rw [hfault] at h
      rw [← Except.error.inj h]
      exact fault?_reports first rest found hfault
  | none =>
      rw [hfault] at h
      exact absurd h (by simp only [reduceCtorEq, not_false_eq_true])

end Cluster

end Seismicity
