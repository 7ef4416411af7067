import Seismicity.Proofs.Rupture.Offset
import Seismicity.Proofs.Source.Radius

/-!
# The Circle Around a Source

How far the corners of the ruptures of a source lie from its location.

The radius of a source is half of the greatest diagonal of its ruptures, and that is
how far their corners are from their centres. The centres, however, are not all
above the location: a plane that does not fit into the layer where its hypocenter is
slides along the dip until it does, and takes its corners along. The radius does not
see this. So the circle of that radius around the location holds a rupture exactly if
the furthest corner, with the slide added, is no further away than the radius says,
which for a source with one plane means that nothing slides.

The corners are compared as plane vectors from the hypocenter, which every rupture
of a source has at the location of the source.

## Main definitions

* `Rupture.LaidOut`: What the surface of a rupture of a source is laid out from.
* `PointSource.shallow`: A source whose rupture slides.

## Theorems

* `exists_laidOut`: Every planar rupture of the full enumeration is laid out from some
  input.
* `LaidOut.offsets_le_iff`, `LaidOut.reach_le`, `LaidOut.rests`: Which circles hold the
  corners.
* `shallow_made`, `not_rests_shallow`: A source comes about whose rupture slides.
* `corners_enveloped_iff`: When the circle of a source holds a rupture.
* `corners_outside`: A rupture that it does not hold.
-/

namespace Seismicity

/-- The surface of a rupture of `s` is laid out from an input: from the hypocenter,
    which is at the location of the source, over the move to the centre, and from
    there over one leg to each corner. -/
structure Rupture.LaidOut (r : Rupture ℝ) (s : PointSource ℝ) (options : RuptureOptions ℝ)
    (input : RuptureInput ℝ) : Prop where
  mem : input ∈ s.ruptureInputs options
  /-- The input is on one of the planes, with the hypocenter at one of the depths. -/
  combination : ∃ plane ∈ s.planes.entries, ∃ depth ∈ s.depths.entries,
    input = s.setting.input r.magnitude plane.2 (s.location.atDepth depth.2)
  bin : ∃ bin ∈ s.bins, r.magnitude = bin.magnitude
  surface : r.surface = .planar (input.surface options.shift)
  /-- The corners over the ground; their depths do not matter here. -/
  corners : (input.surface options.shift).corners.map (Point.atDepth · 0) =
    (input.placement input.extent).legs.map fun leg =>
      leg.follow (input.centerOf (input.placement input.extent)) 0

/-- Every planar rupture of the full enumeration is laid out from some input. -/
theorem PointSource.exists_laidOut (s : PointSource ℝ) (options : RuptureOptions ℝ)
    (hplanar : options.asPoint = false) (r : Rupture ℝ) (hr : r ∈ s.ruptures options) :
    ∃ input, r.LaidOut s options input := by
  rcases (s.mem_ruptures_iff options r).mp hr with ⟨plane, hplane, depth, hdepth, bin, hbin, heq⟩
  have hmem : s.setting.input bin.magnitude plane.2 (s.location.atDepth depth.2)
      ∈ s.ruptureInputs options := by
    simp only [ruptureInputs, combinations, List.mem_flatMap, List.mem_map]
    exact ⟨plane, hplane, depth, hdepth, bin, hbin, rfl⟩
  -- Moving the hypocenter of a surface leaves its corners where they are.
  have hcorners : ∀ input : RuptureInput ℝ,
      (input.surface options.shift).corners.map (Point.atDepth · 0) =
        (input.placement input.extent).legs.map fun leg =>
          leg.follow (input.centerOf (input.placement input.extent)) 0 := by
    intro input
    rw [RuptureInput.surface]
    cases options.shift with
    | false => rfl
    | true => rfl
  rw [hplanar] at heq
  rw [heq]
  exact ⟨_,
    { mem := hmem
      combination := ⟨plane, hplane, depth, hdepth, rfl⟩
      bin := ⟨bin, s.mem_bins_of_selected options bin hbin, rfl⟩
      surface := rfl
      corners := hcorners _ }⟩

namespace Rupture.LaidOut

variable {r : Rupture ℝ} {s : PointSource ℝ} {options : RuptureOptions ℝ}
  {input : RuptureInput ℝ}

theorem admissible (hlaid : r.LaidOut s options input) (h : s.Accepted) : input.Admissible := by
  have hratio : 0 < s.setting.aspectRatio := Exact.zero_eq.symm.le.trans_lt h.valid.aspectRatio
  rcases hlaid.combination with ⟨entry, hentry, _, _, hinput⟩
  rw [hinput]
  exact s.setting.input_admissible _ _ _ h.valid.layer hratio
    (PointSource.planes_inRange h entry.2 (List.mem_map_of_mem hentry))

/-- A circle around the location holds all corners exactly if it is as wide as the
    reach. -/
theorem offsets_le_iff (hlaid : r.LaidOut s options input) (h : s.Accepted) (radius : ℝ) :
    (∀ offset ∈ (input.placement input.extent).offsets, ‖offset‖ ≤ radius)
      ↔ input.reach input.extent ≤ radius := by
  have hadmissible := hlaid.admissible h
  exact RuptureInput.offsets_le_iff input input.extent
    (RuptureInput.extent_vertical_le hadmissible) (RuptureInput.tan_dipAngle_nonneg hadmissible)
    (RuptureInput.extent_length_pos hadmissible)
    (RuptureInput.extent_horizontal_nonneg hadmissible) radius

/-- Half a diagonal of the rupture is enough exactly if its plane rests. -/
theorem reach_le_iff_rests (hlaid : r.LaidOut s options input) (h : s.Accepted) :
    input.reach input.extent ≤ input.extent.projectionRadius ↔ input.Rests := by
  have hadmissible := hlaid.admissible h
  rw [input.reach_le_projectionRadius_iff input.extent
    (RuptureInput.extent_horizontal_nonneg hadmissible), input.slide_eq_zero_iff hadmissible]

/-- Half a diagonal does not depend on where the hypocenter is. -/
theorem exists_projectionRadius_eq (hlaid : r.LaidOut s options input) :
    ∃ entry ∈ s.planes.entries,
      input.extent.projectionRadius = s.setting.projectionRadius r.magnitude entry.2 := by
  rcases hlaid.combination with ⟨entry, hentry, _, _, hinput⟩
  refine ⟨entry, hentry, ?_⟩
  rw [hinput]
  rfl

theorem projectionRadius_le (hlaid : r.LaidOut s options input) (h : s.Accepted) :
    input.extent.projectionRadius ≤ s.radiusAt r.magnitude := by
  rcases hlaid.exists_projectionRadius_eq with ⟨entry, hentry, hradius⟩
  rw [hradius]
  exact (s.radiusAt_spec r.magnitude h.nonempty.1).2 entry hentry

/-- With one plane, only ruptures that rest are within the radius of the source. -/
theorem rests (hlaid : r.LaidOut s options input) (h : s.Accepted) (hsize : s.planes.size = 1)
    (hreach : input.reach input.extent ≤ s.radiusAt r.magnitude) : input.Rests := by
  rcases hlaid.exists_projectionRadius_eq with ⟨entry, hentry, hradius⟩
  rcases (s.radiusAt_spec r.magnitude h.nonempty.1).1 with ⟨other, hother, hwidest⟩
  -- There is no other plane that could make the radius wider.
  rcases List.length_eq_one_iff.mp hsize with ⟨only, honly⟩
  rw [honly, List.mem_singleton] at hentry hother
  refine (hlaid.reach_le_iff_rests h).mp (hreach.trans ?_)
  rw [hradius, hentry, ← hwidest, hother]

/-- Half a diagonal and the slide are always enough. -/
theorem reach_le (hlaid : r.LaidOut s options input) (h : s.Accepted) :
    input.reach input.extent ≤ s.radiusAt r.magnitude + |input.slide input.extent| :=
  (input.reach_le input.extent (RuptureInput.extent_horizontal_nonneg (hlaid.admissible h))).trans
    (add_le_add_left (hlaid.projectionRadius_le h) _)

end Rupture.LaidOut

namespace PointSource

/-- A source at the upper edge of its layer, on one plane that dips by 30 degrees. -/
noncomputable def shallow : PointSource ℝ :=
  { weightless "shallow" 0.0 with
    planes := { entries := [(1.0, { strike := 0.0, dip := 30.0, rake := 0.0 })] }
    depths := { entries := [(1.0, 0.0)] } }

theorem shallow_made : shallow.Made := by
  have hvalid : shallow.toPointSourceSpec.Valid :=
    { weightless_valid "shallow" 0.0 (by norm_num) with
      depths := by
        simp only [shallow, weightless, List.forall_mem_cons, List.not_mem_nil, false_imp_iff,
          implies_true, and_true]
        norm_num
      planes := by
        simp only [shallow, List.forall_mem_cons, List.not_mem_nil, false_imp_iff, implies_true,
          and_true, NodalPlane.fault?_eq_none_iff_inRange]
        constructor <;> constructor <;> norm_num }
  have hsource : ofSpec shallow.toPointSourceSpec = .ok shallow := by
    rw [ofSpec, (PointSourceSpec.fault?_eq_none_iff _).mpr hvalid]
    rfl
  refine Made.ofSpec shallow.toPointSourceSpec shallow.planes.entries shallow.depths.entries _
    ((Pmf.ofEntries_eq_ok_iff _ _).mpr ⟨rfl, List.cons_ne_nil _ _, ?_⟩)
    ((Pmf.ofEntries_eq_ok_iff _ _).mpr ⟨rfl, List.cons_ne_nil _ _, ?_⟩) hsource
  · simp only [shallow, List.forall_mem_cons, List.not_mem_nil, false_imp_iff, implies_true,
      and_true, Pmf.usable_iff, Exact.one_eq, zero_le_one]
  · simp only [shallow, List.forall_mem_cons, List.not_mem_nil, false_imp_iff, implies_true,
      and_true, Pmf.usable_iff, Exact.one_eq, zero_le_one]

/-- The shallow source has a rupture. -/
theorem exists_rupture_shallow :
    ∃ r, r ∈ shallow.ruptures { magnitude := none, asPoint := false, shift := false } :=
  List.exists_mem_of_ne_nil _
    ((shallow.ruptures_ne_nil_iff _ rfl).mpr shallow_made.accepted.nonempty)

/-- No rupture of the shallow source rests: around the hypocenter, its upper half would
    be above the layer. -/
theorem not_rests_shallow (options : RuptureOptions ℝ) (r : Rupture ℝ) (input : RuptureInput ℝ)
    (hlaid : r.LaidOut shallow options input) : ¬ input.Rests := by
  have hheight := RuptureInput.extent_vertical_pos (hlaid.admissible shallow_made.accepted)
  rcases hlaid.combination with ⟨plane, hplane, depth, hdepth, hinput⟩
  have hdip : input.dip = 30.0 := by
    rw [hinput, List.mem_singleton.mp hplane]
    rfl
  have hedge : input.depth = input.upper := by
    rw [hinput, List.mem_singleton.mp hdepth]
    rfl
  rw [RuptureInput.rests_iff]
  rintro (hvertical | ⟨htop, _⟩)
  · norm_num [hdip] at hvertical
  · linarith

/-- When the circle around a source holds the corners of a rupture.

    However the source came about, each planar rupture of its full enumeration is laid
    out from an input at the location. The circle of the radius for its magnitude
    holds the corners exactly if their reach is no greater than that radius; this is
    so if the plane rests, and for a source with one plane only then. Enlarged by the
    slide of the plane, the circle holds the corners of any rupture. The circle that a
    source keeps for itself is no smaller than that of any of its ruptures. -/
theorem corners_enveloped_iff (s : PointSource ℝ) (h : s.Made) (options : RuptureOptions ℝ)
    (hplanar : options.asPoint = false) (r : Rupture ℝ) (hr : r ∈ s.ruptures options) :
    ∃ input, r.LaidOut s options input ∧
      ((∀ offset ∈ (input.placement input.extent).offsets, ‖offset‖ ≤ s.radiusAt r.magnitude) ↔
        input.reach input.extent ≤ s.radiusAt r.magnitude) ∧
      (input.Rests → input.reach input.extent ≤ s.radiusAt r.magnitude) ∧
      (s.planes.size = 1 → input.reach input.extent ≤ s.radiusAt r.magnitude → input.Rests) ∧
      (∀ offset ∈ (input.placement input.extent).offsets,
        ‖offset‖ ≤ s.radiusAt r.magnitude + |input.slide input.extent|) ∧
      s.radiusAt r.magnitude ≤ s.maxRadius := by
  have haccepted := h.accepted
  rcases s.exists_laidOut options hplanar r hr with ⟨input, hlaid⟩
  refine ⟨input, hlaid, hlaid.offsets_le_iff haccepted _, fun hrests => ?_,
    hlaid.rests haccepted, (hlaid.offsets_le_iff haccepted _).mpr (hlaid.reach_le haccepted), ?_⟩
  · exact ((hlaid.reach_le_iff_rests haccepted).mpr hrests).trans
      (hlaid.projectionRadius_le haccepted)
  · rcases hlaid.bin with ⟨bin, hbin, hmagnitude⟩
    rw [hmagnitude]
    exact radiusAt_le_maxRadius h bin hbin

/-- What the theorem says of the rupture of the shallow source: its circle is too small
    by no more than the slide. -/
theorem corners_enveloped_iff_shallow :
    shallow.Made ∧
    ∃ r ∈ shallow.ruptures { magnitude := none, asPoint := false, shift := false }, ∃ input,
      r.LaidOut shallow { magnitude := none, asPoint := false, shift := false } input ∧
      shallow.radiusAt r.magnitude < input.reach input.extent ∧
      ∀ offset ∈ (input.placement input.extent).offsets,
        ‖offset‖ ≤ shallow.radiusAt r.magnitude + |input.slide input.extent| := by
  rcases exists_rupture_shallow with ⟨r, hr⟩
  rcases shallow.corners_enveloped_iff shallow_made _ rfl r hr with
    ⟨input, hlaid, _, _, hsingle, hslide, _⟩
  refine ⟨shallow_made, r, hr, input, hlaid, not_le.mp fun hreach => ?_, hslide⟩
  exact not_rests_shallow _ r input hlaid (hsingle rfl hreach)

/-- The rupture of the shallow source slides down its dip, and its lower corners end
    up outside the circle. -/
theorem corners_outside :
    shallow.Made ∧
    ∃ r ∈ shallow.ruptures { magnitude := none, asPoint := false, shift := false }, ∃ input,
      r.LaidOut shallow { magnitude := none, asPoint := false, shift := false } input ∧
      ∃ offset ∈ (input.placement input.extent).offsets,
        shallow.radiusAt r.magnitude < ‖offset‖ := by
  rcases exists_rupture_shallow with ⟨r, hr⟩
  rcases shallow.exists_laidOut _ rfl r hr with ⟨input, hlaid⟩
  refine ⟨shallow_made, r, hr, input, hlaid, ?_⟩
  by_contra hinside
  have hheld : ∀ offset ∈ (input.placement input.extent).offsets,
      ‖offset‖ ≤ shallow.radiusAt r.magnitude := by
    intro offset hoffset
    exact not_lt.mp fun hfar => hinside ⟨offset, hoffset, hfar⟩
  have hreach := (hlaid.offsets_le_iff shallow_made.accepted _).mp hheld
  exact not_rests_shallow _ r input hlaid (hlaid.rests shallow_made.accepted rfl hreach)

end PointSource

end Seismicity
