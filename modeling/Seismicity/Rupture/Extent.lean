import Seismicity.Scalar

/-!
# Rupture Extents

The length and the width of a rupture, from its area and its aspect ratio. A
width that does not fit into the seismogenic layer is clipped to the widest
that does, and the length is stretched to keep the area.

## Main definitions

* `RuptureInput`: What the geometry of one rupture is computed from.
* `Clip`: A width that did not fit into the layer.
* `Extent`: The length and the two components of the width.
* `RuptureInput.extent`: The extent of a rupture.
-/

namespace Seismicity

/-- What the geometry of one rupture is computed from: the seismogenic layer,
    the aspect ratio, magnitude and area, the nodal plane and the
    hypocenter. -/
structure RuptureInput (α : Type) where
  /-- The upper edge of the layer (km). -/
  upper : α
  /-- The lower edge of the layer (km). -/
  lower : α
  /-- Length over width. -/
  aspectRatio : α
  magnitude : α
  /-- The rupture area (km²). -/
  area : α
  strike : α
  dip : α
  rake : α
  longitude : α
  latitude : α
  depth : α
  deriving BEq, Repr

/-- A rupture width that is clipped to the widest that fits into the layer; the
    aspect ratio is then not kept. -/
structure Clip (α : Type) where
  magnitude : α
  width : α
  widest : α
  aspectRatio : α
  deriving BEq, Repr

/-- The length of a rupture and the horizontal and vertical components of its
    width (km). -/
structure Extent (α : Type) where
  length : α
  horizontal : α
  vertical : α
  deriving BEq, Repr

variable {α : Type} [Scalar α]

namespace Extent

/-- The width within the fault plane. -/
def width (e : Extent α) : α := Scalar.hypot e.horizontal e.vertical

/-- The area of the rupture. -/
def area (e : Extent α) : α := e.length * e.width

/-- Half the diagonal of the rupture's projection onto the ground. -/
def projectionRadius (e : Extent α) : α := Scalar.hypot e.length e.horizontal / 2.0

end Extent

namespace RuptureInput

/-- The dip in radians. -/
def dipAngle (input : RuptureInput α) : α := Scalar.toRadians input.dip

/-- The length that the area and the aspect ratio ask for. -/
def naturalLength (input : RuptureInput α) : α := Scalar.sqrt (input.area * input.aspectRatio)

/-- The width that the area and the aspect ratio ask for. -/
def naturalWidth (input : RuptureInput α) : α := input.area / input.naturalLength

/-- The widest plane of this dip that fits into the layer. -/
def widest (input : RuptureInput α) : α :=
  (input.lower - input.upper) / Scalar.sin input.dipAngle

/-- The clip that is made, if the natural width does not fit. -/
def clip? (input : RuptureInput α) : Option (Clip α) :=
  if input.widest < input.naturalWidth then
    some
      { magnitude := input.magnitude
        width := input.naturalWidth
        widest := input.widest
        aspectRatio := input.aspectRatio }
  else none

/-- The extent of a plane of the given length and width. -/
def extentOf (input : RuptureInput α) (length width : α) : Extent α :=
  { length := length
    horizontal := width * Scalar.cos input.dipAngle
    vertical := width * Scalar.sin input.dipAngle }

/-- The extent of a rupture: the natural length and width, or, if a clip is
    made, the widest width and the length that keeps the area. -/
def extent (input : RuptureInput α) : Extent α :=
  match input.clip? with
  | none => input.extentOf input.naturalLength input.naturalWidth
  | some clip => input.extentOf (input.area / clip.widest) clip.widest

end RuptureInput

end Seismicity
