import Seismicity.Scalar

/-!
# Geographic Points

## Main definitions

* `Point`: A longitude, a latitude and a depth.
-/

namespace Seismicity

/-- A geographic location: longitude and latitude in degrees, depth in km,
    positive downwards. -/
structure Point (α : Type) where
  longitude : α
  latitude : α
  depth : α
  deriving BEq, Repr

namespace Point

variable {α : Type} [Scalar α]

/-- The point at depth zero with the given longitude and latitude. -/
def onSurface (longitude latitude : α) : Point α :=
  { longitude := longitude, latitude := latitude, depth := 0.0 }

/-- The same horizontal position at another depth. -/
def atDepth (p : Point α) (depth : α) : Point α := { p with depth := depth }

/-- All three coordinates are finite. -/
def isFinite (p : Point α) : Bool :=
  Scalar.isFinite p.longitude && Scalar.isFinite p.latitude && Scalar.isFinite p.depth

end Point

end Seismicity
