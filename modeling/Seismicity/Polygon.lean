import Seismicity.BoundingBox

/-!
# Polygons

Closed rings of vertices on the ground, and the ring that stands for a circle.

## Main definitions

* `Polygon`: The longitudes and the latitudes of the vertices.
* `Polygon.circle`: A circle around a point.
-/

namespace Seismicity

/-- A closed ring of vertices; the first is not repeated at the end. -/
structure Polygon (α : Type) where
  longitudes : List α
  latitudes : List α
  deriving BEq, Repr

namespace Polygon

variable {α : Type} [Scalar α]

/-- The number of vertices of a ring that stands for a circle. -/
def circleVertices : Nat := 32

/-- The vertices of the circle of `radius` km around a point, at evenly spaced
    azimuths. -/
def circleRing (center : Point α) (radius : α) : List (α × α) :=
  (List.range circleVertices).map fun i =>
    let azimuth := 360.0 * Scalar.ofNat i / Scalar.ofNat circleVertices
    Geodesy.pointAt center.longitude center.latitude azimuth radius

/-- The ring that stands for the circle of `radius` km around a point. -/
def circle (center : Point α) (radius : α) : Polygon α :=
  let ring := circleRing center radius
  { longitudes := ring.map Prod.fst, latitudes := ring.map Prod.snd }

/-- The number of vertices. -/
def size (p : Polygon α) : Nat := p.longitudes.length

/-- The ring has no vertices. -/
def isEmpty (p : Polygon α) : Bool := p.longitudes.isEmpty

/-- The vertices, as far as both coordinates are given. -/
def vertices (p : Polygon α) : List (Point α) :=
  (p.longitudes.zip p.latitudes).map fun (longitude, latitude) =>
    Point.onSurface longitude latitude

/-- The envelope of the vertices. -/
def boundingBox? (p : Polygon α) : Option (BoundingBox α) :=
  BoundingBox.around? p.vertices 0.0

end Polygon

end Seismicity
