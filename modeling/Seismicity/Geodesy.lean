import Seismicity.Scalar

/-!
# Great Circles

Positions, distances and directions on a spherical Earth. Angles are in
degrees, azimuths clockwise from north, distances in km.

## Main definitions

* `Geodesy.pointAt`: The point reached along a great circle.
* `Geodesy.distance`, `Geodesy.azimuth`: The way from one point to another.
* `Geodesy.angularDistance`: The longitudinal extent of a distance.
* `Geodesy.crossesDateLine`: Whether longitudes straddle the date line.
-/

namespace Seismicity

namespace Geodesy

variable {α : Type} [Scalar α]

open Scalar

/-- The mean radius of the Earth. -/
def earthRadius : α := 6371.0

/-- The arc of one km along a great circle. -/
def degreesPerKm : α := 0.0089932

/-- The longitude and latitude reached by travelling a distance from a point
    along the great circle that leaves with the given azimuth. The longitude
    is brought into `[-180, 180)`. -/
def pointAt (longitude latitude azimuth distance : α) : α × α :=
  let lon := toRadians longitude
  let lat := toRadians latitude
  let course := toRadians (360.0 - azimuth)
  let arc := distance / earthRadius
  let sinLat := sin lat * cos arc + cos lat * sin arc * cos course
  let turn := atan2 (sin course * sin arc * cos lat) (cos arc - sin lat * sinLat)
  let lon' := remainder (lon - turn + pi) (2.0 * pi) - pi
  (toDegrees lon', toDegrees (asin (clampUnit sinLat)))

/-- The great-circle distance between two points. -/
def distance (lon₁ lat₁ lon₂ lat₂ : α) : α :=
  let lon₁ := toRadians lon₁
  let lat₁ := toRadians lat₁
  let lon₂ := toRadians lon₂
  let lat₂ := toRadians lat₂
  let chord := square (sin ((lat₁ - lat₂) / 2.0))
    + cos lat₁ * cos lat₂ * square (sin ((lon₁ - lon₂) / 2.0))
  2.0 * earthRadius * asin (lesser (sqrt chord) 1.0)

/-- The azimuth, in `[0, 360)`, of the great circle from the first point to
    the second. -/
def azimuth (lon₁ lat₁ lon₂ lat₂ : α) : α :=
  let lon₁ := toRadians lon₁
  let lat₁ := toRadians lat₁
  let lon₂ := toRadians lon₂
  let lat₂ := toRadians lat₂
  let course := toDegrees
    (atan2 (sin (lon₁ - lon₂) * cos lat₂)
      (cos lat₁ * sin lat₂ - sin lat₁ * cos lat₂ * cos (lon₁ - lon₂)))
  remainder (360.0 - course) 360.0

/-- The longitudinal extent in degrees of a distance at a latitude. -/
def angularDistance (km latitude : α) : α :=
  km * degreesPerKm / cos (toRadians latitude)

/-- The longitudinal extent of a distance at the mean of two latitudes. -/
def angularDistanceBetween (km lat₁ lat₂ : α) : α :=
  angularDistance km ((lat₁ + lat₂) / 2.0)

/-- Longitudes straddle the date line when their extremes have opposite signs
    and are more than half a turn apart. -/
def crossesDateLine (longitudes : List α) : Bool :=
  if longitudes.isEmpty then false
  else
    let west := least longitudes
    let east := greatest longitudes
    west * east < 0.0 && (180.0 : α) < abs (west - east)

/-- An azimuth brought into `[0, 360)`. -/
def normalizeAzimuth (azimuth : α) : α := remainder azimuth 360.0

end Geodesy

end Seismicity
