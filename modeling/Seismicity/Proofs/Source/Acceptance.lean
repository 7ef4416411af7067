import Seismicity.Proofs.Rupture.Extent
import Seismicity.Source.Point

/-!
# Accepted Sources

What the checks of a description amount to. They are written to name the first
fault, so each is a branch that ends the search; read for acceptance they are a
conjunction, and the order in which they are made no longer shows. `Valid` is
that conjunction, and `fault?_eq_none_iff` the only place where the branches are
looked at.

A source is `Accepted` if it came from an accepted description. Its planes and
depths have to be accepted too, which is a condition of its own: a description
is given its distributions and does not check their weights.

Over the reals every number is finite, and the checks of a plane are the ranges
of its three angles.

## Main definitions

* `PointSourceSpec.Valid`: What a description has to meet.
* `PointSource.Accepted`: The source of an accepted description.
* `NodalPlane.InRange`: The angles of a plane are in their ranges.

## Theorems

* `PointSourceSpec.fault?_eq_none_iff`: A description is accepted exactly if it is
  valid.
* `PointSource.ofSpec_ok`, `PointSource.exists_ofSpec`: What a valid description is
  made into.
* `PointSource.Accepted.valid`: Accepted sources stay valid.
* `Pmf.ofEntries_eq_ok_iff`: So is a distribution, if its weights are usable.
* `NodalPlane.fault?_eq_none_iff_inRange`: The checks of a plane are its ranges.
* `RuptureSetting.input_admissible`: An extent can be computed for ruptures on a
  legal plane.
-/

namespace Seismicity

/-- A check is passed if it finds nothing, and the next one is made. -/
theorem ite_some_eq_none_iff {β : Type} (c : Prop) [Decidable c] (fault : β) (next : Option β) :
    (if c then some fault else next) = none ↔ ¬ c ∧ next = none := by
  by_cases hc : c
  · simp only [hc, if_true, reduceCtorEq, not_true_eq_false, false_and]
  · simp only [hc, if_false, not_false_eq_true, true_and]

variable {α : Type} [Scalar α]

/-- What a description has to meet to be accepted. -/
structure PointSourceSpec.Valid (spec : PointSourceSpec α) : Prop where
  layer : spec.upper < spec.lower
  depths : ∀ entry ∈ spec.depths.entries, spec.upper ≤ entry.2 ∧ entry.2 ≤ spec.lower
  elevation : earthElevation < spec.upper
  longitude : Scalar.isFinite spec.location.longitude = true
  latitude : Scalar.isFinite spec.location.latitude = true
  planes : ∀ entry ∈ spec.planes.entries, entry.2.fault? = none
  aspectRatio : 0.0 < spec.aspectRatio
  finiteRatio : Scalar.isFinite spec.aspectRatio = true
  meshSpacing : 0.0 < spec.meshSpacing
  recurrence : spec.recurrence.fault? = none
  rate : ∃ bin ∈ spec.recurrence.bins, ¬ bin.rate ≤ 0.0

namespace PointSourceSpec

theorem fault?_eq_none_iff (spec : PointSourceSpec α) : spec.fault? = none ↔ spec.Valid := by
  have hdepths : (spec.depths.entries.find? fun entry =>
      !(spec.upper ≤ entry.2 && entry.2 ≤ spec.lower)) = none ↔
        ∀ entry ∈ spec.depths.entries, spec.upper ≤ entry.2 ∧ entry.2 ≤ spec.lower := by
    simp only [List.find?_eq_none, Bool.not_eq_true', Bool.not_eq_false, Bool.and_eq_true,
      decide_eq_true_eq]
  have hplanes : (spec.planes.entries.findSome? fun entry => entry.2.fault?) = none ↔
      ∀ entry ∈ spec.planes.entries, entry.2.fault? = none := List.findSome?_eq_none_iff
  rw [fault?, ite_some_eq_none_iff]
  -- The three checks that search are cased on what they find; the others become
  -- conditions.
  cases hdepth : spec.depths.entries.find? fun entry =>
      !(spec.upper ≤ entry.2 && entry.2 ≤ spec.lower) with
  | some entry =>
      rw [hdepth] at hdepths
      refine iff_of_false (fun h => ?_) fun h => ?_
      · exact absurd h.2 (by simp only [reduceCtorEq, not_false_eq_true])
      · exact absurd (hdepths.mpr h.depths) (by simp only [reduceCtorEq, not_false_eq_true])
  | none =>
      simp only [ite_some_eq_none_iff]
      cases hplane : spec.planes.entries.findSome? fun entry => entry.2.fault? with
      | some fault =>
          rw [hplane] at hplanes
          refine iff_of_false (fun h => ?_) fun h => ?_
          · exact absurd h.2.2.2 (by simp only [reduceCtorEq, not_false_eq_true])
          · exact absurd (hplanes.mpr h.planes) (by simp only [reduceCtorEq, not_false_eq_true])
      | none =>
          simp only [ite_some_eq_none_iff]
          cases hrecurrence : spec.recurrence.fault? with
          | some fault =>
              refine iff_of_false (fun h => ?_) fun h => ?_
              · exact absurd h.2.2.2.2.2 (by simp only [reduceCtorEq, not_false_eq_true])
              · exact absurd (hrecurrence.symm.trans h.recurrence)
                  (by simp only [reduceCtorEq, not_false_eq_true])
          | none =>
              simp only [ite_some_eq_none_iff, Bool.not_eq_true', decide_eq_false_iff_not, not_not,
                Bool.or_eq_true, Bool.and_eq_true, not_or, Bool.not_eq_false, List.all_eq_true,
                decide_eq_true_eq, not_forall, exists_prop, and_true]
              constructor
              · rintro ⟨hlayer, helevation, ⟨hlon, hlat⟩, ⟨hratio, hfinite⟩, hmesh, hrate⟩
                exact ⟨hlayer, hdepths.mp hdepth, helevation, hlon, hlat, hplanes.mp hplane,
                  hratio, hfinite, hmesh, hrecurrence, hrate⟩
              · intro h
                exact ⟨h.layer, h.elevation, ⟨h.longitude, h.latitude⟩,
                  ⟨h.aspectRatio, h.finiteRatio⟩, h.meshSpacing, h.rate⟩

/-- Of the location only the coordinates over the ground are checked. -/
theorem Valid.atDepth {spec : PointSourceSpec α} (h : spec.Valid) (depth : α) :
    ({ spec with location := spec.location.atDepth depth } : PointSourceSpec α).Valid where
  layer := h.layer
  depths := h.depths
  elevation := h.elevation
  longitude := h.longitude
  latitude := h.latitude
  planes := h.planes
  aspectRatio := h.aspectRatio
  finiteRatio := h.finiteRatio
  meshSpacing := h.meshSpacing
  recurrence := h.recurrence
  rate := h.rate

end PointSourceSpec

/-- The source comes from an accepted description with accepted distributions. Its
    tags, and whether its radius has been asked for, do not matter. -/
structure PointSource.Accepted (s : PointSource α) : Prop where
  planes : ∃ entries, Pmf.ofEntries entries = .ok s.planes
  depths : ∃ entries, Pmf.ofEntries entries = .ok s.depths
  source : ∃ spec made, PointSource.ofSpec spec = .ok made ∧
    s.toPointSourceSpec = made.toPointSourceSpec

namespace PointSource

theorem ofSpec_ok (spec : PointSourceSpec α) (s : PointSource α) (h : ofSpec spec = .ok s) :
    spec.Valid ∧ s.toPointSourceSpec = { spec with location := spec.location.atDepth 0.0 } := by
  rw [ofSpec] at h
  cases hfault : spec.fault? with
  | some fault =>
      rw [hfault] at h
      exact absurd h (by simp only [reduceCtorEq, not_false_eq_true])
  | none =>
      rw [hfault, Except.ok.injEq] at h
      rw [← h]
      exact ⟨spec.fault?_eq_none_iff.mp hfault, rfl⟩

theorem exists_ofSpec (spec : PointSourceSpec α) (h : spec.Valid) : ∃ s, ofSpec spec = .ok s := by
  rw [ofSpec, spec.fault?_eq_none_iff.mpr h]
  exact ⟨_, rfl⟩

/-- An accepted source meets what its description had to meet. -/
theorem Accepted.valid {s : PointSource α} (h : s.Accepted) : s.toPointSourceSpec.Valid := by
  rcases h.source with ⟨spec, made, hmade, hspec⟩
  rcases ofSpec_ok spec made hmade with ⟨hvalid, heq⟩
  rw [hspec, heq]
  exact hvalid.atDepth 0.0

end PointSource

namespace Pmf

/-- Weighted values are accepted exactly if there are any and all weights are
    usable, and they are accepted as they are. -/
theorem ofEntries_eq_ok_iff {β : Type} (entries : List (α × β)) (p : Pmf α β) :
    ofEntries entries = .ok p ↔
      p.entries = entries ∧ entries ≠ [] ∧ ∀ entry ∈ entries, usable entry.1 = true := by
  have hfault : fault? entries = none ↔
      entries ≠ [] ∧ ∀ entry ∈ entries, usable entry.1 = true := by
    cases entries with
    | nil => exact iff_of_false (by simp only [fault?, List.isEmpty_nil, if_true, reduceCtorEq,
        not_false_eq_true]) fun h => h.1 rfl
    | cons first rest =>
        simp only [fault?, List.isEmpty_cons, Bool.false_eq_true, if_false, Option.map_eq_none_iff,
          List.find?_eq_none, Bool.not_eq_true', Bool.not_eq_false, ne_eq, reduceCtorEq,
          not_false_eq_true, true_and]
  rw [← hfault, ofEntries]
  cases fault? entries with
  | some fault => simp only [reduceCtorEq, and_false]
  | none =>
      rw [Except.ok.injEq]
      constructor
      · intro h
        rw [← h]
        exact ⟨rfl, rfl⟩
      · intro h
        rw [← h.1]

/-- Over the reals a weight is usable if it is not negative. -/
theorem usable_iff (weight : ℝ) : usable weight = true ↔ 0 ≤ weight := by
  rw [usable, Exact.zero_eq, Bool.and_eq_true, Bool.not_eq_true', decide_eq_false_iff_not, not_lt]
  exact and_iff_right rfl

end Pmf

namespace NodalPlane

/-- The checks of the three angles. -/
theorem fault?_eq_none_iff (plane : NodalPlane α) :
    plane.fault? = none ↔
      (Scalar.isFinite plane.strike = true ∧ 0.0 ≤ plane.strike ∧ plane.strike < 360.0) ∧
      (Scalar.isFinite plane.dip = true ∧ ¬ plane.dip ≤ 0.0 ∧ ¬ 90.0 < plane.dip) ∧
      (Scalar.isFinite plane.rake = true ∧ -180.0 ≤ plane.rake ∧ plane.rake ≤ 180.0) := by
  simp only [fault?, Option.or_eq_none_iff, strikeFault?, dipFault?, rakeFault?,
    ite_eq_left_iff, ite_some_eq_none_iff, reduceCtorEq, imp_false, not_not, Bool.and_eq_true,
    Bool.or_eq_true, Bool.not_eq_true', decide_eq_true_eq, not_or, Bool.not_eq_false, and_true,
    and_assoc]

/-- The angles of a plane are in their ranges. -/
structure InRange (plane : NodalPlane ℝ) : Prop where
  strike : 0 ≤ plane.strike ∧ plane.strike < 360
  dip : 0 < plane.dip ∧ plane.dip ≤ 90
  rake : -180 ≤ plane.rake ∧ plane.rake ≤ 180

/-- In exact arithmetic the checks ask for the ranges. -/
theorem fault?_eq_none_iff_inRange (plane : NodalPlane ℝ) :
    plane.fault? = none ↔ plane.InRange := by
  have hturn : (360.0 : ℝ) = 360 := by norm_num
  have hright : (90.0 : ℝ) = 90 := by norm_num
  have hhalf : (180.0 : ℝ) = 180 := by norm_num
  rw [fault?_eq_none_iff, Exact.zero_eq, hturn, hright, hhalf]
  constructor
  · rintro ⟨⟨_, hstrike⟩, ⟨_, hflat, hsteep⟩, _, hrake⟩
    exact ⟨hstrike, ⟨not_le.mp hflat, not_lt.mp hsteep⟩, hrake⟩
  · intro h
    exact ⟨⟨rfl, h.strike⟩, ⟨rfl, not_le.mpr h.dip.1, not_lt.mpr h.dip.2⟩, rfl, h.rake⟩

theorem checked_eq_ok (strike dip rake : ℝ) (h : InRange ⟨strike, dip, rake⟩) :
    checked strike dip rake = .ok ⟨strike, dip, rake⟩ := by
  have hnone := (fault?_eq_none_iff_inRange ⟨strike, dip, rake⟩).mpr h
  simp only [checked, hnone]

end NodalPlane

/-- Every scaling relation gives a positive area. -/
theorem ScalingRelation.medianArea_pos (relation : ScalingRelation) (magnitude : ℝ)
    (rake : Option ℝ) : 0 < relation.medianArea magnitude rake := by
  have hpower : ∀ x : ℝ, (0 : ℝ) < Scalar.tenPow x := fun x => Real.rpow_pos_of_pos (by norm_num) x
  cases relation with
  | wc1994 =>
      rw [medianArea]
      cases FaultingStyle.ofRake rake with
      | all => exact hpower _
      | strikeSlip => exact hpower _
      | thrust => exact hpower _
      | normal => exact hpower _
  | peer => exact hpower _
  | point =>
      rw [medianArea]
      norm_num
  | germany => exact hpower _

/-- Ruptures on a legal plane in a layer are of a kind that an extent can be
    computed for. -/
theorem RuptureSetting.input_admissible (setting : RuptureSetting ℝ) (magnitude : ℝ)
    (plane : NodalPlane ℝ) (hypocenter : Point ℝ) (hlayer : setting.upper < setting.lower)
    (hratio : 0 < setting.aspectRatio) (hplane : plane.InRange) :
    (setting.input magnitude plane hypocenter).Admissible where
  layer := hlayer
  area := setting.scaling.medianArea_pos magnitude _
  aspectRatio := hratio
  dip_pos := hplane.dip.1
  dip_le := hplane.dip.2

end Seismicity
