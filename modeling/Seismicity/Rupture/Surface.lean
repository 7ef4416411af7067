import Seismicity.Geodesy
import Seismicity.Point
import Seismicity.Rupture.Extent

/-!
# Rupture Surfaces

Rectangular rupture planes centred on a hypocenter. The corners are reached
from the centre along the two diagonals; a walk along the edges would
accumulate geodetic error and distort the rectangle.

A plane is laid out in two steps. Its `Placement` says which ways lead over
the ground from the hypocenter to the centre and from the centre to the
corners; the `PlanarSurface` is what is reached by walking them.

## Main definitions

* `Leg`: An azimuth and a distance.
* `Placement`: The legs and depths by which a plane is laid out.
* `RuptureInput.placement`: The layout that keeps a plane in its layer.
* `PlanarSurface`: Four corners and a hypocenter.
* `RuptureInput.surface`: The surface of a rupture.
-/

namespace Seismicity

/-- A straight way over the ground: an azimuth in degrees and a distance in
    km. -/
structure Leg (α : Type) where
  azimuth : α
  distance : α
  deriving BEq, Repr

/-- A rectangle that dips to the right of its strike, with the hypocenter of
    the rupture. -/
structure PlanarSurface (α : Type) where
  strike : α
  dip : α
  topLeft : Point α
  topRight : Point α
  bottomRight : Point α
  bottomLeft : Point α
  hypocenter : Point α
  deriving BEq, Repr

/-- The layout of a rupture plane: the move of its centre, if it has to move,
    the depths of the centre and of the two edges, and the legs from the
    centre to the corners. -/
structure Placement (α : Type) where
  move : Option (Leg α)
  centerDepth : α
  topDepth : α
  bottomDepth : α
  topLeft : Leg α
  topRight : Leg α
  bottomRight : Leg α
  bottomLeft : Leg α
  deriving BEq, Repr

variable {α : Type} [Scalar α]

/-- The point at the end of a leg, at a given depth. -/
def Leg.follow (leg : Leg α) (start : Point α) (depth : α) : Point α :=
  let (longitude, latitude) :=
    Geodesy.pointAt start.longitude start.latitude leg.azimuth leg.distance
  { longitude := longitude, latitude := latitude, depth := depth }

namespace PlanarSurface

/-- The corners: top left, top right, bottom right, bottom left. -/
def corners (s : PlanarSurface α) : List (Point α) :=
  [s.topLeft, s.topRight, s.bottomRight, s.bottomLeft]

/-- The depth of the top edge. -/
def topDepth (s : PlanarSurface α) : α := s.topLeft.depth

/-- The depth of the bottom edge. -/
def bottomDepth (s : PlanarSurface α) : α := s.bottomLeft.depth

/-- The length of the top edge on the ground. -/
def topEdgeLength (s : PlanarSurface α) : α :=
  Geodesy.distance s.topLeft.longitude s.topLeft.latitude
    s.topRight.longitude s.topRight.latitude

/-- The mean of the corners. -/
def centroid (s : PlanarSurface α) : Point α :=
  { longitude := Scalar.sum (s.corners.map Point.longitude) / 4.0
    latitude := Scalar.sum (s.corners.map Point.latitude) / 4.0
    depth := Scalar.sum (s.corners.map Point.depth) / 4.0 }

end PlanarSurface

namespace RuptureInput

/-- The hypocenter. -/
def hypocenter (input : RuptureInput α) : Point α :=
  { longitude := input.longitude, latitude := input.latitude, depth := input.depth }

/-- How far the centre moves down to bring a plane of half height `half` into
    the layer: down until the top edge fits, else up until the bottom edge
    does. -/
def descent (input : RuptureInput α) (half : α) : α :=
  let down := input.upper - input.depth + half
  if down < 0.0 then
    let up := input.lower - input.depth - half
    if 0.0 < up then 0.0 else up
  else down

/-- The azimuth down the dip. -/
def azimuthDown (input : RuptureInput α) : α := Geodesy.normalizeAzimuth (input.strike + 90.0)

/-- The azimuth up the dip. -/
def azimuthUp (input : RuptureInput α) : α :=
  Geodesy.normalizeAzimuth (Geodesy.normalizeAzimuth (input.azimuthDown + 90.0) + 90.0)

/-- The leg over which the centre descends, along the dip direction, so that
    it stays on the plane. -/
def moveFor (input : RuptureInput α) (descent : α) : Option (Leg α) :=
  if descent == 0.0 then none
  else
    some
      { azimuth := if descent < 0.0 then input.azimuthUp else input.azimuthDown
        distance := Scalar.abs (descent / Scalar.tan input.dipAngle) }

/-- The layout of a plane of the given extent. -/
def placement (input : RuptureInput α) (extent : Extent α) : Placement α :=
  let halfLength := extent.length / 2.0
  let halfWidth := extent.horizontal / 2.0
  let halfHeight := extent.vertical / 2.0
  let descent := input.descent halfHeight
  let centerDepth := if descent == 0.0 then input.depth else input.depth + descent
  -- The angle between the strike and the diagonals; zero for vertical planes.
  let theta := Scalar.toDegrees (Scalar.atan (halfWidth / halfLength))
  let corner (azimuth : α) : Leg α :=
    { azimuth := Geodesy.normalizeAzimuth azimuth
      distance := Scalar.hypot halfLength halfWidth }
  { move := input.moveFor descent
    centerDepth := centerDepth
    topDepth := centerDepth - halfHeight
    bottomDepth := centerDepth + halfHeight
    topLeft := corner (input.strike + 180.0 + theta)
    topRight := corner (input.strike - theta)
    bottomRight := corner (input.strike + theta)
    bottomLeft := corner (input.strike + 180.0 - theta) }

/-- The centre of a plane that is laid out from the hypocenter. -/
def centerOf (input : RuptureInput α) (placement : Placement α) : Point α :=
  match placement.move with
  | none => input.hypocenter.atDepth placement.centerDepth
  | some leg => leg.follow input.hypocenter placement.centerDepth

/-- The surface of the given extent, whose hypocenter is its centre. -/
def surfaceOf (input : RuptureInput α) (extent : Extent α) : PlanarSurface α :=
  let placement := input.placement extent
  let center := input.centerOf placement
  { strike := input.strike
    dip := input.dip
    topLeft := placement.topLeft.follow center placement.topDepth
    topRight := placement.topRight.follow center placement.topDepth
    bottomRight := placement.bottomRight.follow center placement.bottomDepth
    bottomLeft := placement.bottomLeft.follow center placement.bottomDepth
    hypocenter := center }

/-- The surface of a rupture. Its hypocenter is the centre of the plane if
    `shift`, and else the hypocenter that was given, also when the plane had
    to move away from it. -/
def surface (input : RuptureInput α) (shift : Bool) : PlanarSurface α :=
  let surface := input.surfaceOf input.extent
  if shift then surface else { surface with hypocenter := input.hypocenter }

end RuptureInput

end Seismicity
