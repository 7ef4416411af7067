import Seismicity.Proofs.Geodesy.Envelopes

/-!
# Points Across the Date Line

In exact arithmetic, which of its own points the box around points holds.

The envelope and the test of a box do not measure longitudes alike. Where points straddle the
date line the envelope measures eastern longitudes as they are and western ones a full turn
further. The test takes a longitude as it is. Each point is in the box as the envelope measures
it, so an eastern point is held, and a western one is held a full turn further only: unless
the box is the globe it is half a turn wide at most, and the two are a full turn apart.

## Theorems

* `measured_eastern`, `measured_western`: How the envelope measures longitudes.
* `exists_western`: Of points that straddle the date line one is western.
* `contains_point_iff`: When a box holds a point as it is.
* `envelope_contains_measured`: What the envelope holds.
* `envelope_holds_iff`: When it holds one of them, and when all.
* `around?_straddling`: The box around two points on both sides of the date line.
* `envelope_holds_iff_straddling`: What that box holds.
* `envelope_misses_western`: It does not hold both points.
-/

namespace Seismicity

namespace BoundingBox

open Geodesy

variable {points : List (Point ℝ)}

theorem measured_eastern (points : List (Point ℝ)) {longitude : ℝ} (hlow : 0 ≤ longitude)
    (hhigh : longitude ≤ 180) : measured points longitude = longitude := by
  rw [measured]
  by_cases hcross : crossesDateLine (points.map Point.longitude) = true
  · rw [if_pos hcross]
    exact Exact.remainder_eq_self hlow (by linarith)
  · rw [if_neg hcross]

/-- Across the date line western longitudes are measured a full turn further. -/
theorem measured_western (hcross : crossesDateLine (points.map Point.longitude) = true)
    {longitude : ℝ} (hlow : -180 ≤ longitude) (hhigh : longitude < 0) :
    measured points longitude = longitude + 360 := by
  have hturn : (0 : ℝ) < 360.0 := by norm_num
  have hfull : longitude + ((1 : ℤ) : ℝ) * 360.0 = longitude + 360 := by norm_num
  have hsame := Exact.remainder_add_int_mul longitude 1 hturn
  rw [hfull, Exact.remainder_eq_self (by linarith) (by linarith)] at hsame
  rw [measured, if_pos hcross]
  exact hsame.symm

theorem measured_of_not_crosses (hcross : crossesDateLine (points.map Point.longitude) = false)
    (longitude : ℝ) : measured points longitude = longitude := by
  rw [measured, hcross]
  exact if_neg Bool.false_ne_true

/-- The extremes of longitudes that straddle the date line have opposite signs. -/
theorem exists_western (h : crossesDateLine (points.map Point.longitude) = true) :
    ∃ p ∈ points, p.longitude < 0 := by
  have hne : points.map Point.longitude ≠ [] := by
    intro hnil
    rw [hnil] at h
    exact Bool.false_ne_true h
  have hleast := Exact.least_spec _ hne
  have hgreatest := (Exact.greatest_spec _ hne).2 _ hleast.1
  have hsigns := ((crossesDateLine_iff hne).mp h).1
  rcases List.mem_map.mp hleast.1 with ⟨p, hp, hlongitude⟩
  refine ⟨p, hp, ?_⟩
  rw [hlongitude]
  rcases mul_neg_iff.mp hsigns with ⟨hpos, hneg⟩ | ⟨hneg, -⟩
  · linarith
  · exact hneg

/-- A proper box that is the globe, or holds a point as the envelope measures it, holds the point
    as it is if the box is the globe, if the points do not straddle the date line, or if this
    one is an eastern one. -/
theorem contains_point_iff {box : BoundingBox ℝ} (hproper : box.Proper) {p : Point ℝ}
    (hlongitude : |p.longitude| ≤ 180) (hlatitude : |p.latitude| ≤ 90)
    (hheld : box = globe ∨ box.contains (measured points p.longitude) p.latitude = true) :
    box.contains p.longitude p.latitude = true ↔
      box = globe ∨ crossesDateLine (points.map Point.longitude) = false ∨ 0 ≤ p.longitude := by
  have hrange := abs_le.mp hlongitude
  by_cases hglobe : box = globe
  · refine iff_of_true ?_ (.inl hglobe)
    rw [hglobe, globe_contains_iff]
    exact ⟨hlongitude, hlatitude⟩
  · have hmeasured := hheld.resolve_left hglobe
    by_cases hcross : crossesDateLine (points.map Point.longitude) = true
    · by_cases heast : 0 ≤ p.longitude
      · rw [measured_eastern points heast hrange.2] at hmeasured
        exact iff_of_true hmeasured (.inr (.inr heast))
      · -- The point is in the box a full turn further, and the box is not that wide.
        rw [measured_western hcross hrange.1 (not_le.mp heast), contains_iff] at hmeasured
        have hwidth := hproper.width.resolve_left hglobe
        refine iff_of_false (fun hcontains => ?_) ?_
        · rw [contains_iff] at hcontains
          linarith [hmeasured.1.2, hcontains.1.1]
        · rintro (hbox | hno | hno)
          · exact hglobe hbox
          · exact Bool.false_ne_true (hno.symm.trans hcross)
          · exact heast hno
    · have hsame := Bool.eq_false_iff.mpr hcross
      rw [measured_of_not_crosses hsame] at hmeasured
      exact iff_of_true hmeasured (.inr (.inl hsame))

theorem straddling_crosses : crossesDateLine (straddling.map Point.longitude) = true := by
  have hne : straddling.map Point.longitude ≠ [] := List.cons_ne_nil _ _
  rw [crossesDateLine_iff hne, straddling_eq, List.map_cons, List.map_cons, List.map_nil,
    Exact.least_pair, Exact.greatest_pair]
  norm_num

/-- The box around the two points on both sides of the date line is two degrees wide. -/
theorem around?_straddling : around? straddling 0 =
    some { west := 179, south := -10, east := 181, north := 10 } := by
  have heast : measured straddling 179 = 179 := measured_eastern _ (by norm_num) (by norm_num)
  have hwest : measured straddling (-179) = 181 := by
    rw [measured_western straddling_crosses (by norm_num) (by norm_num)]
    norm_num
  have hlongitudes : (straddling.map fun p => measured straddling p.longitude) = [179, 181] := by
    rw [straddling_eq, List.map_cons, List.map_cons, List.map_nil, ← straddling_eq, heast, hwest]
  rw [around?_eq straddling_onGlobe.nonempty, sweep_straddling, rise_eq, hull, hlongitudes,
    Exact.least_pair, Exact.greatest_pair, straddling_latitudes.1, straddling_latitudes.2,
    enlarged_eq]
  norm_num

section Envelope

variable {margin : ℝ}

/-- An envelope that is not the globe holds the points as it measures them. -/
theorem envelope_contains_measured (h : OnGlobe points) (hmargin : 0 ≤ margin) {p : Point ℝ}
    (hp : p ∈ points) :
    (hull points).enlarged (sweep points margin) (rise margin) = globe ∨
      ((hull points).enlarged (sweep points margin) (rise margin)).contains
        (measured points p.longitude) p.latitude = true := by
  refine enlarged_contains (hull_holds hp) ?_ ?_ (h.latitude p hp)
  · rw [sub_self, abs_zero]
    exact h.sweep_nonneg hmargin
  · rw [sub_self, abs_zero]
    exact rise_nonneg hmargin

/-- The box around points holds all of them exactly if it is the globe or they do not straddle
    the date line. Otherwise it holds the eastern ones, and the western ones a full turn
    further. -/
theorem envelope_holds_iff (h : OnGlobe points) (hmargin : 0 ≤ margin) :
    ∃ box, around? points margin = some box ∧
      ((∀ p ∈ points, box.contains p.longitude p.latitude = true) ↔
        box = globe ∨ crossesDateLine (points.map Point.longitude) = false) ∧
      ∀ p ∈ points,
        (box.contains p.longitude p.latitude = true ↔
          box = globe ∨ crossesDateLine (points.map Point.longitude) = false ∨
            0 ≤ p.longitude) ∧
        (box.contains p.longitude p.latitude = true ∨
          box.contains (p.longitude + 360) p.latitude = true) := by
  have heach := fun p (hp : p ∈ points) =>
    contains_point_iff (h.enlarged_proper hmargin) (h.longitude p hp) (h.latitude p hp)
      (envelope_contains_measured h hmargin hp)
  refine ⟨_, around?_eq h.nonempty margin, ?_, fun p hp => ⟨heach p hp, ?_⟩⟩
  · constructor
    · intro hall
      by_cases hcross : crossesDateLine (points.map Point.longitude) = true
      · rcases exists_western hcross with ⟨p, hp, hwest⟩
        rcases (heach p hp).mp (hall p hp) with hglobe | hno | heast
        · exact .inl hglobe
        · exact .inr hno
        · exact absurd heast (not_le.mpr hwest)
      · exact .inr (Bool.eq_false_iff.mpr hcross)
    · intro hor p hp
      exact (heach p hp).mpr (hor.imp_right .inl)
  · by_cases hheld : crossesDateLine (points.map Point.longitude) = false ∨ 0 ≤ p.longitude
    · exact .inl ((heach p hp).mpr (.inr hheld))
    · rw [not_or, Bool.not_eq_false, not_le] at hheld
      rcases envelope_contains_measured h hmargin hp with hglobe | hmeasured
      · exact .inl ((heach p hp).mpr (.inl hglobe))
      · rw [measured_western hheld.1 (abs_le.mp (h.longitude p hp)).1 hheld.2] at hmeasured
        exact .inr hmeasured

end Envelope

/-- It holds the western point at a longitude of a hundred and eighty-one degrees. -/
theorem envelope_holds_iff_straddling : OnGlobe straddling ∧
    ∃ box, around? straddling 0 = some box ∧ box.contains 179 10 = true ∧
      box.contains (-179) (-10) = false ∧ box.contains (-179 + 360) (-10) = true := by
  rcases envelope_holds_iff straddling_onGlobe (le_refl 0) with ⟨box, hbox, -, heach⟩
  have hmem : (⟨179, 10, 0⟩ : Point ℝ) ∈ straddling := by
    rw [straddling_eq]
    exact List.mem_cons_self
  have heast := heach _ hmem
  have hwest := heach _ western_mem
  have hglobe : box ≠ globe := by
    intro hglobe
    rw [around?_straddling, hglobe, Option.some_inj] at hbox
    have hedge := congrArg BoundingBox.west hbox
    norm_num [globe] at hedge
  have hmissed : ¬ box.contains (-179) (-10) = true := by
    rw [hwest.1]
    rintro (hbox' | hno | hno)
    · exact hglobe hbox'
    · exact Bool.false_ne_true (hno.symm.trans straddling_crosses)
    · norm_num at hno
  exact ⟨straddling_onGlobe, box, hbox, heast.1.mpr (.inr (.inr (by norm_num))),
    Bool.eq_false_iff.mpr hmissed, hwest.2.resolve_left hmissed⟩

/-- Their box does not hold both of them. -/
theorem envelope_misses_western : OnGlobe straddling ∧
    ¬ ∃ box, around? straddling 0 = some box ∧
      ∀ p ∈ straddling, box.contains p.longitude p.latitude = true := by
  refine ⟨straddling_onGlobe, ?_⟩
  rintro ⟨box, hbox, hall⟩
  have hwest := hall _ western_mem
  rw [around?_straddling, Option.some_inj] at hbox
  rw [← hbox, contains_iff] at hwest
  linarith [hwest.1.1]

end BoundingBox

end Seismicity
