import Seismicity.Geodesy
import Seismicity.Point

/-!
# Bounding Boxes

Conservative envelopes in longitude and latitude, by which sources are
filtered against the sites they may affect.

## Main definitions

* `BoundingBox`: A range of longitudes and a range of latitudes.
* `BoundingBox.around?`: The envelope of points, enlarged by a distance.
-/

namespace Seismicity

/-- A range of longitudes and a range of latitudes, in degrees. -/
structure BoundingBox (α : Type) where
  west : α
  south : α
  east : α
  north : α
  deriving BEq, Repr

namespace BoundingBox

variable {α : Type} [Scalar α]

/-- The whole globe. -/
def globe : BoundingBox α :=
  { west := -180.0, south := -90.0, east := 180.0, north := 90.0 }

/-- The box holds the point with the given longitude and latitude; its edges
    belong to it. -/
def contains (box : BoundingBox α) (longitude latitude : α) : Bool :=
  box.west ≤ longitude && longitude ≤ box.east
    && box.south ≤ latitude && latitude ≤ box.north

/-- The longitudes of points as the envelope measures them: when they straddle
    the date line, they are brought into `[0, 360)`. -/
def unwrapped (longitudes : List α) : List α :=
  if Geodesy.crossesDateLine longitudes then
    longitudes.map fun longitude => Scalar.remainder longitude 360.0
  else longitudes

/-- The envelope of points, enlarged by `margin` km on every side. The
    longitudinal margin is taken at the mean of the extreme latitudes; a box
    more than half a turn wide becomes the globe, and latitudes stop at the
    poles. No points have no envelope. -/
def around? (points : List (Point α)) (margin : α) : Option (BoundingBox α) :=
  if points.isEmpty then none
  else
    let longitudes := unwrapped (points.map Point.longitude)
    let latitudes := points.map Point.latitude
    let west := Scalar.least longitudes
    let east := Scalar.greatest longitudes
    let south := Scalar.least latitudes
    let north := Scalar.greatest latitudes
    let vertical := Scalar.lesser (margin * Geodesy.degreesPerKm) 90.0
    let horizontal := Geodesy.angularDistanceBetween margin south north
    if (180.0 : α) < east - west + 2.0 * horizontal then some globe
    else
      some
        { west := west - horizontal
          south := Scalar.greater (south - vertical) (-90.0)
          east := east + horizontal
          north := Scalar.lesser (north + vertical) 90.0 }

/-- The envelope of one point, enlarged by `margin` km. -/
def aroundPoint (point : Point α) (margin : α) : BoundingBox α :=
  (around? [point] margin).getD globe

end BoundingBox

end Seismicity
