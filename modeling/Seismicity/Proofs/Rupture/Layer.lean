import Mathlib.Analysis.Real.Pi.Bounds
import Seismicity.Proofs.Geodesy.Travel
import Seismicity.Proofs.Rupture.Extent
import Seismicity.Rupture.Surface

/-!
# Planes in the Seismogenic Layer

A rupture plane is brought into its layer by the smallest move that does it.

The descent of the centre is found in two tests, the top edge first and the
bottom edge only if the top edge fits with room to spare. For a plane that is no
higher than the layer the two come to one: the depth is clamped between the
shallowest and the deepest that leave the plane in the layer
(`add_descent_eq`). All statements about depths follow from that one, and from
the extent only its height is needed.

The ground distance of a move is the descent over the tangent of the dip. A
vertical plane moves straight down or up: the tangent of its dip is a quotient by
zero, and so is the distance, which makes both zero.

## Main definitions

* `RuptureInput.clampedDepth`: The nearest depth at which a plane fits.
* `RuptureInput.movedTo`: The input with another hypocenter.
* `RuptureInput.Settled`: How a surface lies in the layer of its input.

## Theorems

* `add_descent_eq`, `centerDepth_eq`: The depth of the centre is clamped.
* `clampedDepth_nearest`: No depth at which the plane fits is nearer.
* `clampedDepth_of_fits`: A plane that fits is not moved.
* `move_eq`: The centre moves exactly if its depth changes.
* `centerOf_of_unmoved`, `centerOf_of_moved`: Where the centre is.
* `surfaceOf_corners_in_layer`: The corners are in the layer.
* `surfaceOf_congr`: What a surface depends on.
* `surfaceOf_movedTo_center`: Laid out from its centre, a surface is the same.
* `surfaceOf_settled`: The surface of a rupture is settled in its layer.
-/

namespace Seismicity

namespace RuptureInput

/-- The depth of the centre of a plane of half height `half`: the one of the
    hypocenter if the plane fits there, else the nearest at which it does. -/
noncomputable def clampedDepth (input : RuptureInput ℝ) (half : ℝ) : ℝ :=
  max (input.upper + half) (min input.depth (input.lower - half))

/-- The same rupture with another hypocenter. -/
def movedTo (input : RuptureInput ℝ) (center : Point ℝ) : RuptureInput ℝ :=
  { input with
    longitude := center.longitude
    latitude := center.latitude
    depth := center.depth }

section Depths

variable (input : RuptureInput ℝ) (half : ℝ)

theorem descent_eq : input.descent half =
    if input.upper - input.depth + half < 0 then
      if 0 < input.lower - input.depth - half then 0 else input.lower - input.depth - half
    else input.upper - input.depth + half := by
  rw [← Exact.zero_eq]
  rfl

/-- The two tests of the descent amount to a clamp. -/
theorem add_descent_eq (hfits : half + half ≤ input.lower - input.upper) :
    input.depth + input.descent half = input.clampedDepth half := by
  rw [descent_eq, clampedDepth]
  by_cases htop : input.upper - input.depth + half < 0
  · rw [if_pos htop]
    by_cases hbottom : 0 < input.lower - input.depth - half
    · -- Both edges are inside the layer.
      rw [if_pos hbottom, min_eq_left (by linarith), max_eq_right (by linarith), add_zero]
    · rw [if_neg hbottom, min_eq_right (by linarith), max_eq_right (by linarith)]
      ring
  · -- The top edge reaches out of the layer, or touches its upper edge.
    have hshallow : min input.depth (input.lower - half) ≤ input.upper + half :=
      (min_le_left _ _).trans (by linarith)
    rw [if_neg htop, max_eq_left hshallow]
    ring

theorem le_clampedDepth : input.upper + half ≤ input.clampedDepth half := le_max_left _ _

theorem clampedDepth_le (hfits : half + half ≤ input.lower - input.upper) :
    input.clampedDepth half ≤ input.lower - half :=
  max_le (by linarith) (min_le_right _ _)

/-- A plane that fits is not moved. -/
theorem clampedDepth_of_fits (htop : input.upper + half ≤ input.depth)
    (hbottom : input.depth ≤ input.lower - half) : input.clampedDepth half = input.depth := by
  rw [clampedDepth, min_eq_left hbottom, max_eq_right htop]

/-- No depth at which the plane fits is nearer. -/
theorem clampedDepth_nearest (depth : ℝ) (htop : input.upper + half ≤ depth)
    (hbottom : depth ≤ input.lower - half) :
    |input.clampedDepth half - input.depth| ≤ |depth - input.depth| := by
  rw [clampedDepth]
  rcases le_total input.depth (input.lower - half) with hlow | hlow
  · rw [min_eq_left hlow]
    rcases le_total (input.upper + half) input.depth with hhigh | hhigh
    · rw [max_eq_right hhigh, sub_self, abs_zero]
      exact abs_nonneg _
    · -- Too shallow: every depth at which the plane fits is further down.
      rw [max_eq_left hhigh, abs_of_nonneg (by linarith), abs_of_nonneg (by linarith)]
      linarith
  · -- Too deep: every depth at which the plane fits is further up.
    rw [min_eq_right hlow, max_eq_right (htop.trans hbottom), abs_of_nonpos (by linarith),
      abs_of_nonpos (by linarith)]
    linarith

end Depths

section Center

variable (input : RuptureInput ℝ) (extent : Extent ℝ)

/-- The depth to which a plane of the given extent is brought. -/
theorem centerDepth_eq (hfits : extent.vertical ≤ input.lower - input.upper) :
    (input.placement extent).centerDepth = input.clampedDepth (extent.vertical / 2) := by
  have hdescent := add_descent_eq input (extent.vertical / 2) (by linarith)
  rw [← Exact.half_eq] at hdescent ⊢
  rw [← hdescent]
  by_cases hzero : input.descent (extent.vertical / 2.0) = 0.0
  · -- The centre is left as it is, which is as good as adding zero.
    have hbeq := (Exact.beq_iff_eq (input.descent (extent.vertical / 2.0)) 0.0).mpr hzero
    refine (if_pos hbeq).trans ?_
    rw [hzero]
    norm_num
  · have hbeq := (Exact.beq_iff_eq (input.descent (extent.vertical / 2.0)) 0.0).not.mpr hzero
    exact if_neg hbeq

theorem centerOf_depth :
    (input.centerOf (input.placement extent)).depth = (input.placement extent).centerDepth := by
  rw [centerOf]
  cases (input.placement extent).move with
  | none => rfl
  | some leg => rfl

theorem moveFor_eq (descent : ℝ) : input.moveFor descent =
    if descent = 0 then none
    else
      some
        { azimuth := if descent < 0 then input.azimuthUp else input.azimuthDown
          distance := |descent / Real.tan input.dipAngle| } := by
  rw [← Exact.zero_eq]
  by_cases hnone : descent = 0.0
  · rw [if_pos hnone]
    exact if_pos ((Exact.beq_iff_eq descent 0.0).mpr hnone)
  · rw [if_neg hnone]
    exact if_neg ((Exact.beq_iff_eq descent 0.0).not.mpr hnone)

/-- The way over which the centre of a plane of half height `half` moves, when it
    does. -/
noncomputable def moveLeg (input : RuptureInput ℝ) (half : ℝ) : Leg ℝ :=
  { azimuth := if input.clampedDepth half < input.depth then input.azimuthUp
      else input.azimuthDown
    distance := |input.clampedDepth half - input.depth| / Real.tan input.dipAngle }

/-- The centre moves exactly if its depth changes. -/
theorem move_eq (hfits : extent.vertical ≤ input.lower - input.upper)
    (htan : 0 ≤ Real.tan input.dipAngle) :
    (input.placement extent).move =
      if input.clampedDepth (extent.vertical / 2) = input.depth then none
      else some (input.moveLeg (extent.vertical / 2)) := by
  have hdescent := add_descent_eq input (extent.vertical / 2) (by linarith)
  have hmove : (input.placement extent).move
      = input.moveFor (input.descent (extent.vertical / 2)) := by
    rw [← Exact.half_eq]
    rfl
  rw [hmove, moveFor_eq, moveLeg, ← hdescent]
  simp only [add_eq_left, add_lt_iff_neg_left, add_sub_cancel_left, abs_div, abs_of_nonneg htan]

/-- A centre whose depth does not change is the hypocenter. -/
theorem centerOf_of_unmoved (hfits : extent.vertical ≤ input.lower - input.upper)
    (htan : 0 ≤ Real.tan input.dipAngle)
    (hdepth : input.clampedDepth (extent.vertical / 2) = input.depth) :
    (input.placement extent).move = none ∧
      input.centerOf (input.placement extent) = input.hypocenter := by
  have hmove : (input.placement extent).move = none := by
    rw [move_eq input extent hfits htan, if_pos hdepth]
  refine ⟨hmove, ?_⟩
  rw [centerOf, hmove, centerDepth_eq input extent hfits, hdepth]
  rfl

/-- A centre whose depth changes is where its move leads. -/
theorem centerOf_of_moved (hfits : extent.vertical ≤ input.lower - input.upper)
    (htan : 0 ≤ Real.tan input.dipAngle)
    (hdepth : input.clampedDepth (extent.vertical / 2) ≠ input.depth) :
    input.centerOf (input.placement extent)
      = (input.moveLeg (extent.vertical / 2)).follow input.hypocenter
          (input.clampedDepth (extent.vertical / 2)) := by
  rw [centerOf, move_eq input extent hfits htan, if_neg hdepth,
    centerDepth_eq input extent hfits]

end Center

/-- The corners of a surface lie half its height above and below the centre. -/
theorem surfaceOf_corner_depths (input : RuptureInput ℝ) (extent : Extent ℝ)
    (hfits : extent.vertical ≤ input.lower - input.upper) :
    (input.surfaceOf extent).hypocenter.depth = input.clampedDepth (extent.vertical / 2) ∧
    (input.surfaceOf extent).corners.map Point.depth =
      [input.clampedDepth (extent.vertical / 2) - extent.vertical / 2,
        input.clampedDepth (extent.vertical / 2) - extent.vertical / 2,
        input.clampedDepth (extent.vertical / 2) + extent.vertical / 2,
        input.clampedDepth (extent.vertical / 2) + extent.vertical / 2] := by
  constructor
  · exact (centerOf_depth input extent).trans (centerDepth_eq input extent hfits)
  · rw [← centerDepth_eq input extent hfits, ← Exact.half_eq]
    rfl

theorem surfaceOf_corners_in_layer (input : RuptureInput ℝ) (extent : Extent ℝ)
    (hfits : extent.vertical ≤ input.lower - input.upper) (hheight : 0 ≤ extent.vertical) :
    ∀ corner ∈ (input.surfaceOf extent).corners,
      input.upper ≤ corner.depth ∧ corner.depth ≤ input.lower := by
  have hlow := le_clampedDepth input (extent.vertical / 2)
  have hhigh := clampedDepth_le input (extent.vertical / 2) (by linarith)
  intro corner hcorner
  have hdepth := List.mem_map_of_mem (f := Point.depth) hcorner
  rw [(surfaceOf_corner_depths input extent hfits).2] at hdepth
  simp only [List.mem_cons, List.not_mem_nil, or_false] at hdepth
  rcases hdepth with htop | htop | hbottom | hbottom <;> constructor <;> linarith

/-- Apart from its centre, a surface depends on the extent, the strike and the dip
    only. -/
theorem surfaceOf_congr (a b : RuptureInput ℝ) (extent : Extent ℝ) (hstrike : a.strike = b.strike)
    (hdip : a.dip = b.dip)
    (hcenter : a.centerOf (a.placement extent) = b.centerOf (b.placement extent)) :
    a.surfaceOf extent = b.surfaceOf extent := by
  have hdepth : (a.placement extent).centerDepth = (b.placement extent).centerDepth := by
    rw [← centerOf_depth, hcenter, centerOf_depth]
  have htop : (a.placement extent).topDepth = (b.placement extent).topDepth :=
    congrArg (· - extent.vertical / 2.0) hdepth
  have hbottom : (a.placement extent).bottomDepth = (b.placement extent).bottomDepth :=
    congrArg (· + extent.vertical / 2.0) hdepth
  have hlegs : (a.placement extent).topLeft = (b.placement extent).topLeft ∧
      (a.placement extent).topRight = (b.placement extent).topRight ∧
      (a.placement extent).bottomRight = (b.placement extent).bottomRight ∧
      (a.placement extent).bottomLeft = (b.placement extent).bottomLeft := by
    simp only [placement, hstrike, and_self]
  simp only [surfaceOf, hcenter, htop, hbottom, hlegs, hstrike, hdip]

/-- Laid out from its centre, a surface is the same. -/
theorem surfaceOf_movedTo_center (input : RuptureInput ℝ) (extent : Extent ℝ)
    (hfits : extent.vertical ≤ input.lower - input.upper)
    (htan : 0 ≤ Real.tan input.dipAngle) :
    ((input.movedTo (input.surfaceOf extent).hypocenter).placement extent).move = none ∧
      (input.movedTo (input.surfaceOf extent).hypocenter).surfaceOf extent
        = input.surfaceOf extent := by
  have hdepth : (input.surfaceOf extent).hypocenter.depth
      = input.clampedDepth (extent.vertical / 2) :=
    (surfaceOf_corner_depths input extent hfits).1
  have hfixed : (input.movedTo (input.surfaceOf extent).hypocenter).clampedDepth
      (extent.vertical / 2) = (input.surfaceOf extent).hypocenter.depth := by
    refine clampedDepth_of_fits _ _ ?_ ?_
    · exact (le_clampedDepth input _).trans hdepth.ge
    · exact hdepth.le.trans (clampedDepth_le input _ (by linarith))
  have hcenter := centerOf_of_unmoved (input.movedTo (input.surfaceOf extent).hypocenter) extent
    hfits htan hfixed
  exact ⟨hcenter.1, surfaceOf_congr _ input extent rfl rfl hcenter.2⟩

/-- How a surface lies in the layer of its input, when it has the extent of the
    input. -/
structure Settled (input : RuptureInput ℝ) (surface : PlanarSurface ℝ) : Prop where
  /-- The depth of the centre is clamped. -/
  center : surface.hypocenter.depth = max (input.upper + input.extent.vertical / 2)
    (min input.depth (input.lower - input.extent.vertical / 2))
  /-- The edges are half a height away from the centre. -/
  edges : surface.corners.map Point.depth =
    [surface.hypocenter.depth - input.extent.vertical / 2,
      surface.hypocenter.depth - input.extent.vertical / 2,
      surface.hypocenter.depth + input.extent.vertical / 2,
      surface.hypocenter.depth + input.extent.vertical / 2]
  /-- The corners are in the layer. -/
  inLayer : ∀ corner ∈ surface.corners, input.upper ≤ corner.depth ∧ corner.depth ≤ input.lower
  /-- At no depth nearer to the hypocenter does the plane fit. -/
  nearest : ∀ depth, input.upper ≤ depth - input.extent.vertical / 2 →
    depth + input.extent.vertical / 2 ≤ input.lower →
    |surface.hypocenter.depth - input.depth| ≤ |depth - input.depth|
  /-- A centre at the depth of the hypocenter is the hypocenter. -/
  unmoved : surface.hypocenter.depth = input.depth → surface.hypocenter = input.hypocenter
  /-- Any other centre is where travelling down or up the dip leads, over the
      change in depth divided by the tangent of the dip. -/
  moved : surface.hypocenter.depth ≠ input.depth →
    (surface.hypocenter.longitude, surface.hypocenter.latitude) =
      Geodesy.pointAt input.longitude input.latitude
        (if surface.hypocenter.depth < input.depth then input.azimuthUp else input.azimuthDown)
        (|surface.hypocenter.depth - input.depth| / Real.tan input.dipAngle)
  /-- That is how far the centre is from the hypocenter, unless this is more than
      half way around the Earth. -/
  distance : surface.hypocenter.depth ≠ input.depth → -90 ≤ input.latitude →
    input.latitude ≤ 90 →
    |surface.hypocenter.depth - input.depth| / Real.tan input.dipAngle ≤ Real.pi * 6371 →
    Geodesy.distance input.longitude input.latitude surface.hypocenter.longitude
      surface.hypocenter.latitude
      = |surface.hypocenter.depth - input.depth| / Real.tan input.dipAngle
  /-- With its centre for a hypocenter the surface is laid out again, and nothing
      moves. -/
  again : ((input.movedTo surface.hypocenter).placement
      (input.movedTo surface.hypocenter).extent).move = none ∧
    (input.movedTo surface.hypocenter).surfaceOf (input.movedTo surface.hypocenter).extent = surface

/-- The surface of a rupture lies in the seismogenic layer, after the smallest
    possible move. This holds wherever the hypocenter is. -/
theorem surfaceOf_settled (input : RuptureInput ℝ) (h : input.Admissible) :
    input.Settled (input.surfaceOf input.extent) := by
  have hfits := extent_vertical_le h
  have hheight := (extent_vertical_pos h).le
  have htan := tan_dipAngle_nonneg h
  have hdepths := surfaceOf_corner_depths input input.extent hfits
  have hmoved : (input.surfaceOf input.extent).hypocenter.depth ≠ input.depth →
      (input.surfaceOf input.extent).hypocenter
        = (input.moveLeg (input.extent.vertical / 2)).follow input.hypocenter
          (input.clampedDepth (input.extent.vertical / 2)) := by
    rw [hdepths.1]
    exact centerOf_of_moved input input.extent hfits htan
  exact
    { center := hdepths.1
      edges := by rw [hdepths.2, hdepths.1]
      inLayer := surfaceOf_corners_in_layer input input.extent hfits hheight
      nearest := by
        intro depth htop hbottom
        rw [hdepths.1]
        exact clampedDepth_nearest input _ depth (by linarith) (by linarith)
      unmoved := by
        rw [hdepths.1]
        exact fun hdepth => (centerOf_of_unmoved input input.extent hfits htan hdepth).2
      moved := by
        intro hne
        rw [hdepths.1, hmoved hne]
        rfl
      distance := by
        intro hne hsouth hnorth hfar
        rw [hdepths.1] at hfar ⊢
        rw [hmoved hne]
        exact Geodesy.distance_pointAt _ _ _ _ hsouth hnorth
          (div_nonneg (abs_nonneg _) htan) hfar
      again := surfaceOf_movedTo_center input input.extent hfits htan }

/-- A square of 400 km² that dips by 30 degrees is as high as a layer of 10 km. Its
    hypocenter is below the layer. -/
def deepSquare : RuptureInput ℝ :=
  { upper := 5
    lower := 15
    aspectRatio := 1
    magnitude := 6
    area := 400
    strike := 0
    dip := 30
    rake := 0
    longitude := 11
    latitude := 45
    depth := 20 }

theorem deepSquare_admissible : deepSquare.Admissible := by
  constructor <;> norm_num [deepSquare]

theorem deepSquare_dipAngle : deepSquare.dipAngle = Real.pi / 6 := by
  rw [dipAngle_eq]
  change (30 : ℝ) * (Real.pi / 180) = Real.pi / 6
  ring

theorem deepSquare_height : deepSquare.extent.vertical = 10 := by
  have hroot : Real.sqrt (400 * 1) = 20 := by
    rw [show (400 : ℝ) * 1 = 20 ^ 2 by norm_num]
    exact Real.sqrt_sq (by norm_num)
  have hnatural : deepSquare.naturalWidth = 20 := by
    change (400 : ℝ) / Real.sqrt (400 * 1) = 20
    rw [hroot]
    norm_num
  have hwidest : deepSquare.widest = 20 := by
    change ((15 : ℝ) - 5) / Real.sin deepSquare.dipAngle = 20
    rw [deepSquare_dipAngle, Real.sin_pi_div_six]
    norm_num
  rw [extent_vertical_eq deepSquare_admissible, deepSquare_dipAngle, fittedWidth, hnatural,
    hwidest, min_self, Real.sin_pi_div_six]
  norm_num

/-- The deep square moves up to the middle of its layer, and so by `10 √3` km over
    the ground. -/
theorem surfaceOf_settled_deepSquare :
    deepSquare.Admissible ∧ deepSquare.Settled (deepSquare.surfaceOf deepSquare.extent) ∧
      (deepSquare.surfaceOf deepSquare.extent).hypocenter.depth = 10 ∧
      Geodesy.distance 11 45 (deepSquare.surfaceOf deepSquare.extent).hypocenter.longitude
        (deepSquare.surfaceOf deepSquare.extent).hypocenter.latitude = 10 * Real.sqrt 3 := by
  have hsettled := surfaceOf_settled deepSquare deepSquare_admissible
  have hdepth : (deepSquare.surfaceOf deepSquare.extent).hypocenter.depth = 10 := by
    rw [hsettled.center, deepSquare_height]
    change max ((5 : ℝ) + 10 / 2) (min 20 (15 - 10 / 2)) = 10
    norm_num
  have hway : |(deepSquare.surfaceOf deepSquare.extent).hypocenter.depth - deepSquare.depth|
      / Real.tan deepSquare.dipAngle = 10 * Real.sqrt 3 := by
    rw [hdepth, deepSquare_dipAngle, Real.tan_pi_div_six]
    change |(10 : ℝ) - 20| / (1 / Real.sqrt 3) = 10 * Real.sqrt 3
    norm_num
  refine ⟨deepSquare_admissible, hsettled, hdepth, ?_⟩
  rw [← hway]
  refine hsettled.distance ?_ (by norm_num [deepSquare]) (by norm_num [deepSquare]) ?_
  · rw [hdepth]
    norm_num [deepSquare]
  · have hroot : Real.sqrt 3 ≤ 2 := Real.sqrt_le_iff.mpr (by norm_num)
    have hpi := Real.pi_gt_three
    rw [hway]
    linarith

end RuptureInput

end Seismicity
