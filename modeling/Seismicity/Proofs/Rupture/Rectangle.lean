import Mathlib
import Seismicity.Proofs.Rupture.Offset

/-!
# The Rectangle of the Corners

In exact arithmetic the corners of a rupture form a rectangle that dips to the right of its
strike, and the hypocenter stays on its plane.

Read as plane vectors, the legs to the corners are plus or minus half the length along the
strike and half the width across it (`legs_eq`). Differences and sums of them are then a
matter of collecting terms, whatever the strike. From the top edge to the bottom edge the
plane is as much deeper as the tangent of its dip asks for.

The centre moves along the dip, by as much over the ground as that tangent asks for, too. So
the hypocenter differs from a corner by multiples of two edges only, and lies on the plane
that they span (`hypocenter_eq`). Positions in space are pairs of a plane vector and a depth.

## Main definitions

* `RuptureInput.along`, `RuptureInput.across`: The edges of a rectangle over the ground.
* `RuptureInput.corner`, `RuptureInput.topEdge`, `RuptureInput.leftEdge`: A corner of it in
  space, and the edges that meet there.
* `Placement.positions`: Where the corners lie in space.
* `Placement.Rectangular`: The corners form the rectangle of a plane through the hypocenter.

## Theorems

* `heading_across`, `heading_against`: The directions down and up the dip.
* `coplanar_parallelogram`, `not_collinear_parallelogram`, `mem_affineSpan_parallelogram`:
  The plane through the corners of a parallelogram.
* `legs_eq`: The legs to the corners.
* `positions_eq`, `edges_independent`: The corners in space.
* `hypocenter_eq`: How the hypocenter is reached from a corner.
* `move_eq_none`, `exists_move`, `center_eq`: How the centre moves.
* `placement_rectangular`: The corners form the right rectangle.
-/

namespace Seismicity

section Parallelogram

variable {V : Type*} [AddCommGroup V] [Module ℝ V] (corner a b : V)

/-- What differs from a corner by multiples of two edges is on the plane through three corners
    of a parallelogram. -/
theorem mem_affineSpan_parallelogram (s t : ℝ) :
    corner + (s • a + t • b) ∈ affineSpan ℝ {corner, corner + a, corner + b} := by
  have hcorner : corner ∈ affineSpan ℝ {corner, corner + a, corner + b} :=
    subset_affineSpan ℝ _ (Set.mem_insert _ _)
  have ha : corner + a ∈ affineSpan ℝ {corner, corner + a, corner + b} :=
    subset_affineSpan ℝ _ (Set.mem_insert_of_mem _ (Set.mem_insert _ _))
  have hb : corner + b ∈ affineSpan ℝ {corner, corner + a, corner + b} :=
    subset_affineSpan ℝ _ (Set.mem_insert_of_mem _ (Set.mem_insert_of_mem _ rfl))
  have hedgeA := AffineSubspace.vsub_mem_direction ha hcorner
  have hedgeB := AffineSubspace.vsub_mem_direction hb hcorner
  rw [vsub_eq_sub, add_sub_cancel_left] at hedgeA hedgeB
  have hsum := Submodule.add_mem _ (Submodule.smul_mem _ s hedgeA) (Submodule.smul_mem _ t hedgeB)
  rw [add_comm corner (s • a + t • b)]
  exact AffineSubspace.vadd_mem_of_mem_direction hsum hcorner

/-- The fourth corner is on that plane. -/
theorem coplanar_parallelogram :
    Coplanar ℝ {corner, corner + a, corner + (a + b), corner + b} := by
  have hopposite := mem_affineSpan_parallelogram corner a b 1 1
  rw [one_smul, one_smul] at hopposite
  have hplane := (coplanar_insert_iff_of_mem_affineSpan hopposite).mpr (coplanar_triple ℝ _ _ _)
  rwa [Set.insert_comm, Set.insert_comm _ (corner + a)] at hplane

/-- If its edges point in different directions, there is no other such plane. -/
theorem not_collinear_parallelogram (h : ∀ s t : ℝ, s • a + t • b = 0 → s = 0 ∧ t = 0) :
    ¬ Collinear ℝ {corner, corner + a, corner + (a + b), corner + b} := by
  rw [collinear_iff_of_mem (Set.mem_insert corner _)]
  rintro ⟨v, hv⟩
  rcases hv (corner + a) (by simp only [Set.mem_insert_iff, true_or, or_true]) with ⟨r, hr⟩
  rcases hv (corner + b) (by simp only [Set.mem_insert_iff, Set.mem_singleton_iff, or_true]) with
    ⟨q, hq⟩
  rw [vadd_eq_add, add_comm, add_left_inj] at hr hq
  have hzero : q • a + (-r) • b = 0 := by
    rw [hr, hq, smul_smul, smul_smul, mul_comm, ← add_smul, neg_mul, add_neg_cancel, zero_smul]
  -- Then the first edge is no edge at all.
  have hnone := (h q (-r) hzero).2
  have hedge : (1 : ℝ) • a + (0 : ℝ) • b = 0 := by
    rw [hr, neg_eq_zero.mp hnone, zero_smul, smul_zero, zero_smul, add_zero]
  exact one_ne_zero (h 1 0 hedge).1

end Parallelogram

namespace Geodesy

/-- Across the strike to the right. -/
theorem heading_across (azimuth : ℝ) :
    heading (azimuth + 90) = heading azimuth * Complex.I := by
  have hright : (90 : ℝ) = 90.0 := by norm_num
  rw [hright, heading_add, heading_right]

/-- Across the strike to the left. -/
theorem heading_against (azimuth : ℝ) :
    heading (azimuth + 270) = -(heading azimuth * Complex.I) := by
  have hturns : (270 : ℝ) = 180.0 + 90 := by norm_num
  rw [hturns, ← add_assoc, heading_across, heading_add, heading_back]
  ring

end Geodesy

namespace Placement

/-- The depths of the corners, in the order of the legs. -/
def depths {α : Type} (placement : Placement α) : List α :=
  [placement.topDepth, placement.topDepth, placement.bottomDepth, placement.bottomDepth]

/-- Where the corners lie in space: over the ground, as seen from the hypocenter, and in
    depth. -/
noncomputable def positions (placement : Placement ℝ) : List (ℂ × ℝ) :=
  placement.offsets.zip placement.depths

end Placement

namespace RuptureInput

open Geodesy

section Frame

variable (input : RuptureInput ℝ) (extent : Extent ℝ)

/-- The way along the strike from one end of a plane to the other. -/
noncomputable def along : ℂ := extent.length * heading input.strike

/-- The way over the ground from the top edge of a plane to its bottom edge. -/
noncomputable def across : ℂ := extent.horizontal * heading (input.strike + 90)

/-- The top edge in space; it is level. -/
noncomputable def topEdge : ℂ × ℝ := (input.along extent, 0)

/-- The left edge in space, which goes down the dip. -/
noncomputable def leftEdge : ℂ × ℝ := (input.across extent, extent.vertical)

/-- The top left corner in space. -/
noncomputable def corner : ℂ × ℝ :=
  ((input.placement extent).moveVector + (input.placement extent).topLeft.vector,
    (input.placement extent).topDepth)

/-- A vector in the frame of the strike. -/
theorem frame_eq (s t : ℝ) : heading input.strike * ⟨s, t⟩
    = s * heading input.strike + t * heading (input.strike + 90) := by
  rw [Complex.mk_eq_add_mul_I, heading_across]
  ring

/-- The legs to the corners are sums of halves of the edges. -/
theorem legs_eq (hlength : 0 < extent.length) :
    (input.placement extent).topLeft.vector
        = -(input.along extent / 2) - input.across extent / 2 ∧
    (input.placement extent).topRight.vector
        = input.along extent / 2 - input.across extent / 2 ∧
    (input.placement extent).bottomRight.vector
        = input.along extent / 2 + input.across extent / 2 ∧
    (input.placement extent).bottomLeft.vector
        = -(input.along extent / 2) + input.across extent / 2 := by
  have hlegs := legVectors_eq input extent hlength
  simp only [Placement.legs, List.map_cons, List.map_nil, List.cons.injEq, and_true,
    frame_eq] at hlegs
  rcases hlegs with ⟨htopLeft, htopRight, hbottomRight, hbottomLeft⟩
  rw [htopLeft, htopRight, hbottomRight, hbottomLeft, along, across]
  push_cast
  refine ⟨?_, ?_, ?_, ?_⟩ <;> ring

theorem topDepth_eq : (input.placement extent).topDepth
    = (input.placement extent).centerDepth - extent.vertical / 2 := by
  rw [← Exact.half_eq]
  rfl

theorem bottomDepth_eq : (input.placement extent).bottomDepth
    = (input.placement extent).centerDepth + extent.vertical / 2 := by
  rw [← Exact.half_eq]
  rfl

/-- The corners in space are those of a parallelogram. -/
theorem positions_eq (hlength : 0 < extent.length) :
    (input.placement extent).positions =
      [input.corner extent, input.corner extent + input.topEdge extent,
        input.corner extent + (input.topEdge extent + input.leftEdge extent),
        input.corner extent + input.leftEdge extent] := by
  rcases legs_eq input extent hlength with ⟨htopLeft, htopRight, hbottomRight, hbottomLeft⟩
  simp only [Placement.positions, Placement.offsets, Placement.legs, Placement.depths,
    List.map_cons, List.map_nil, List.zip_cons_cons, List.zip_nil_right, htopLeft, htopRight,
    hbottomRight, hbottomLeft, topDepth_eq, bottomDepth_eq, corner, topEdge, leftEdge,
    Prod.mk_add_mk, List.cons.injEq, Prod.mk.injEq, and_true, true_and]
  refine ⟨⟨?_, ?_⟩, ⟨?_, ?_⟩, ?_, ?_⟩ <;> ring

theorem setOf_positions_eq (hlength : 0 < extent.length) :
    {p | p ∈ (input.placement extent).positions} =
      {input.corner extent, input.corner extent + input.topEdge extent,
        input.corner extent + (input.topEdge extent + input.leftEdge extent),
        input.corner extent + input.leftEdge extent} := by
  rw [positions_eq input extent hlength]
  ext p
  simp only [Set.mem_ofPred_eq, List.mem_cons, List.not_mem_nil, or_false, Set.mem_insert_iff,
    Set.mem_singleton_iff]

/-- Only the edge down the dip goes down, and the other has a length. -/
theorem edges_independent (hlength : 0 < extent.length) (hvertical : 0 < extent.vertical)
    (s t : ℝ) (hzero : s • input.topEdge extent + t • input.leftEdge extent = 0) :
    s = 0 ∧ t = 0 := by
  rw [topEdge, leftEdge, Prod.smul_mk, Prod.smul_mk, Prod.mk_add_mk, Prod.mk_eq_zero, smul_zero,
    zero_add, smul_eq_zero_iff_left hvertical.ne'] at hzero
  have halong : input.along extent ≠ 0 := by
    rw [← norm_ne_zero_iff, along, norm_mul, norm_heading, mul_one, Complex.norm_real]
    exact norm_ne_zero_iff.mpr hlength.ne'
  rcases hzero with ⟨hground, ht⟩
  rw [ht, zero_smul, add_zero, smul_eq_zero_iff_left halong] at hground
  exact ⟨hground, ht⟩

theorem bottomDepth_sub_topDepth :
    (input.placement extent).bottomDepth - (input.placement extent).topDepth
      = extent.vertical := by
  rw [topDepth_eq, bottomDepth_eq]
  ring

section Slope

variable (hfits : extent.vertical ≤ input.lower - input.upper)
  (htan : 0 < Real.tan input.dipAngle)

include hfits htan

/-- The centre slides by the same multiple of an edge as it changes its depth. -/
theorem moveVector_across (hvertical : 0 < extent.vertical)
    (hslope : extent.vertical = extent.horizontal * Real.tan input.dipAngle) :
    (input.placement extent).moveVector
      = (((input.placement extent).centerDepth - input.depth) / extent.vertical : ℝ)
        * input.across extent := by
  have hslide : input.slide extent
      = ((input.placement extent).centerDepth - input.depth) / extent.vertical
        * extent.horizontal := by
    rw [slide_eq, centerDepth_eq input extent hfits, div_eq_iff htan.ne', mul_assoc, ← hslope,
      div_mul_cancel₀ _ hvertical.ne']
  rw [moveVector_eq input extent hfits htan.le, frame_eq, hslide, across]
  push_cast
  ring

/-- From a corner the hypocenter is reached by half of one edge and some of the other. -/
theorem hypocenter_eq (hlength : 0 < extent.length) (hvertical : 0 < extent.vertical)
    (hslope : extent.vertical = extent.horizontal * Real.tan input.dipAngle) :
    ((0 : ℂ), input.depth) = input.corner extent +
      ((1 / 2 : ℝ) • input.topEdge extent +
        (1 / 2 - ((input.placement extent).centerDepth - input.depth) / extent.vertical : ℝ)
          • input.leftEdge extent) := by
  have hmove := moveVector_across input extent hfits htan hvertical hslope
  rw [corner, topEdge, leftEdge, hmove, (legs_eq input extent hlength).1, topDepth_eq]
  refine Prod.ext ?_ ?_
  · -- Over the ground the multiple of the left edge takes the move back.
    simp only [Prod.fst_add, Prod.smul_fst, Complex.real_smul]
    push_cast
    ring
  · -- In depth it takes back the change.
    simp only [Prod.snd_add, Prod.smul_snd, smul_eq_mul]
    field_simp
    ring

/-- A centre that keeps its depth does not move. -/
theorem move_eq_none (hdepth : (input.placement extent).centerDepth = input.depth) :
    (input.placement extent).move = none := by
  rw [centerDepth_eq input extent hfits] at hdepth
  rw [move_eq input extent hfits htan.le, if_pos hdepth]

/-- A centre that changes its depth moves, and at the slope of the dip. -/
theorem exists_move (hdepth : (input.placement extent).centerDepth ≠ input.depth) :
    ∃ leg, (input.placement extent).move = some leg ∧ 0 < leg.distance ∧
      |(input.placement extent).centerDepth - input.depth| / leg.distance
        = Real.tan input.dipAngle ∧
      leg.azimuth = if (input.placement extent).centerDepth < input.depth then input.azimuthUp
        else input.azimuthDown := by
  have hchange := abs_pos.mpr (sub_ne_zero.mpr hdepth)
  rw [centerDepth_eq input extent hfits] at hdepth hchange ⊢
  refine ⟨_, by rw [move_eq input extent hfits htan.le, if_neg hdepth], ?_, ?_, rfl⟩
  · exact div_pos hchange htan
  · exact div_div_cancel₀ hchange.ne'

/-- The centre is the hypocenter, or where the move leads from it. -/
theorem center_eq : (input.surfaceOf extent).hypocenter =
    match (input.placement extent).move with
    | none => input.hypocenter
    | some leg => leg.follow input.hypocenter (input.placement extent).centerDepth := by
  by_cases hdepth : (input.placement extent).centerDepth = input.depth
  · have hclamped := (centerDepth_eq input extent hfits).symm.trans hdepth
    rw [move_eq_none input extent hfits htan hdepth]
    exact (centerOf_of_unmoved input extent hfits htan.le hclamped).2
  · rcases exists_move input extent hfits htan hdepth with ⟨leg, hmove, _⟩
    change input.centerOf (input.placement extent) = _
    rw [centerOf, hmove]

end Slope

end Frame

end RuptureInput

/-- The corners of a surface form a rectangle that dips to the right of its strike, and the
    hypocenter lies on the plane through them. Legs are read as plane vectors. -/
structure Placement.Rectangular (placement : Placement ℝ) (input : RuptureInput ℝ)
    (extent : Extent ℝ) : Prop where
  /-- The legs of the placement are those by which the corners of the surface are reached. -/
  corners : (input.surfaceOf extent).corners = (placement.legs.zip placement.depths).map
    fun (leg, depth) => leg.follow (input.surfaceOf extent).hypocenter depth
  center : (input.surfaceOf extent).hypocenter = match placement.move with
    | none => input.hypocenter
    | some leg => leg.follow input.hypocenter placement.centerDepth
  top : placement.topRight.vector - placement.topLeft.vector
    = extent.length * Geodesy.heading input.strike
  bottom : placement.bottomRight.vector - placement.bottomLeft.vector
    = extent.length * Geodesy.heading input.strike
  left : placement.bottomLeft.vector - placement.topLeft.vector
    = extent.horizontal * Geodesy.heading (input.strike + 90)
  right : placement.bottomRight.vector - placement.topRight.vector
    = extent.horizontal * Geodesy.heading (input.strike + 90)
  /-- The legs start in the middle of the corners. -/
  centered : (placement.legs.map Leg.vector).sum = 0
  horizontal_pos : 0 < extent.horizontal
  slope : (placement.bottomDepth - placement.topDepth) / extent.horizontal
    = Real.tan input.dipAngle
  unmoved : placement.centerDepth = input.depth → placement.move = none
  /-- Down, the centre moves across the strike to the right, at the slope of the dip. -/
  down : input.depth < placement.centerDepth → ∃ leg, placement.move = some leg ∧
    0 < leg.distance ∧ leg.vector = leg.distance * Geodesy.heading (input.strike + 90) ∧
    (placement.centerDepth - input.depth) / leg.distance = Real.tan input.dipAngle
  /-- Up, it moves to the left. -/
  up : placement.centerDepth < input.depth → ∃ leg, placement.move = some leg ∧
    0 < leg.distance ∧ leg.vector = leg.distance * Geodesy.heading (input.strike + 270) ∧
    (input.depth - placement.centerDepth) / leg.distance = Real.tan input.dipAngle
  /-- The corners lie on one plane, and on no other. -/
  coplanar : Coplanar ℝ {p | p ∈ placement.positions}
  spread : ¬ Collinear ℝ {p | p ∈ placement.positions}
  hypocenter : ((0 : ℂ), input.depth) ∈ affineSpan ℝ {p | p ∈ placement.positions}

namespace RuptureInput

open Geodesy

/-- The corners of a rupture that is not vertical form the right rectangle, and its hypocenter
    stays on their plane. -/
theorem placement_rectangular (input : RuptureInput ℝ) (h : input.Admissible)
    (hdip : input.dip < 90) :
    (input.placement input.extent).Rectangular input input.extent := by
  have hfits := extent_vertical_le h
  have htan := tan_dipAngle_pos h hdip
  have hvertical := extent_vertical_pos h
  have hslope := extent_vertical_eq_tan h hdip
  have hset := setOf_positions_eq input input.extent (extent_length_pos h)
  rcases legs_eq input input.extent (extent_length_pos h) with
    ⟨htopLeft, htopRight, hbottomRight, hbottomLeft⟩
  exact
    { corners := rfl
      center := center_eq input input.extent hfits htan
      top := by
        rw [htopRight, htopLeft, ← along]
        ring
      bottom := by
        rw [hbottomRight, hbottomLeft, ← along]
        ring
      left := by
        rw [hbottomLeft, htopLeft, ← across]
        ring
      right := by
        rw [hbottomRight, htopRight, ← across]
        ring
      centered := by
        simp only [Placement.legs, List.map_cons, List.map_nil, List.sum_cons, List.sum_nil,
          htopLeft, htopRight, hbottomRight, hbottomLeft]
        ring
      horizontal_pos := extent_horizontal_pos h hdip
      slope := by
        rw [bottomDepth_sub_topDepth, div_eq_iff (extent_horizontal_pos h hdip).ne', hslope,
          mul_comm]
      unmoved := move_eq_none input input.extent hfits htan
      down := by
        intro hdown
        rcases exists_move input input.extent hfits htan hdown.ne' with
          ⟨leg, hmove, hpos, hratio, hazimuth⟩
        rw [abs_of_pos (sub_pos.mpr hdown)] at hratio
        rw [if_neg hdown.not_gt] at hazimuth
        refine ⟨leg, hmove, hpos, ?_, hratio⟩
        rw [Leg.vector, hazimuth, heading_azimuthDown, heading_across]
      up := by
        intro hup
        rcases exists_move input input.extent hfits htan hup.ne with
          ⟨leg, hmove, hpos, hratio, hazimuth⟩
        rw [abs_of_neg (sub_neg.mpr hup), neg_sub] at hratio
        rw [if_pos hup] at hazimuth
        refine ⟨leg, hmove, hpos, ?_, hratio⟩
        rw [Leg.vector, hazimuth, heading_azimuthUp, heading_against]
      coplanar := by
        rw [hset]
        exact coplanar_parallelogram _ _ _
      spread := by
        rw [hset]
        exact not_collinear_parallelogram _ _ _
          (edges_independent input input.extent (extent_length_pos h) hvertical)
      hypocenter := by
        rw [hset, hypocenter_eq input input.extent hfits htan (extent_length_pos h) hvertical
          hslope]
        refine affineSpan_mono ℝ ?_ (mem_affineSpan_parallelogram _ _ _ _ _)
        exact Set.insert_subset_insert (Set.insert_subset_insert (Set.subset_insert _ _)) }

/-- The deep square moves up, by as much over the ground as a dip of 30 degrees asks for. -/
theorem placement_rectangular_deepSquare :
    deepSquare.Admissible ∧ deepSquare.dip < 90 ∧
      (deepSquare.placement deepSquare.extent).Rectangular deepSquare deepSquare.extent ∧
      ∃ leg, (deepSquare.placement deepSquare.extent).move = some leg ∧
        leg.vector = leg.distance * heading 270 ∧ 10 / leg.distance = Real.tan (Real.pi / 6) := by
  have hdip : deepSquare.dip < 90 := by norm_num [deepSquare]
  have hrectangular := placement_rectangular deepSquare deepSquare_admissible hdip
  have hdepth : (deepSquare.placement deepSquare.extent).centerDepth = 10 := by
    rw [centerDepth_eq _ _ (extent_vertical_le deepSquare_admissible), deepSquare_height]
    change max ((5 : ℝ) + 10 / 2) (min 20 (15 - 10 / 2)) = 10
    norm_num
  have hup : (deepSquare.placement deepSquare.extent).centerDepth < deepSquare.depth := by
    rw [hdepth]
    norm_num [deepSquare]
  rcases hrectangular.up hup with ⟨leg, hmove, _, hvector, hratio⟩
  refine ⟨deepSquare_admissible, hdip, hrectangular, leg, hmove, ?_, ?_⟩
  · rw [hvector]
    norm_num [deepSquare]
  · rw [hdepth, deepSquare_dipAngle] at hratio
    rw [← hratio]
    norm_num [deepSquare]

end RuptureInput

end Seismicity
