import Seismicity.NodalPlane
import Seismicity.Occurrence
import Seismicity.Rupture.Surface
import Seismicity.Scaling

/-!
# Ruptures

One realisation of a rupture, with the annual rate at which it occurs, and
what all ruptures of a source have in common.

## Main definitions

* `Rupture`: A rupture with its geometry and its rate.
* `RuptureSetting`: What the ruptures of a source share.
* `Scenario`: What one rupture outside a source is made from.
-/

namespace Seismicity

/-- The geometry of a rupture: none at all, or a plane. -/
inductive RuptureSurface (α : Type) where
  | point
  | planar (surface : PlanarSurface α)
  deriving BEq, Repr

/-- A rupture with its annual rate of occurrence. -/
structure Rupture (α : Type) where
  magnitude : α
  rake : α
  region : String
  hypocenter : Point α
  surface : RuptureSurface α
  rate : α
  occurrence : Option (Poisson α)
  deriving BEq, Repr

/-- What the ruptures of a source share: the edges of the seismogenic layer,
    the aspect ratio, the scaling relation, the tectonic region type and the
    occurrence in time. -/
structure RuptureSetting (α : Type) where
  upper : α
  lower : α
  aspectRatio : α
  scaling : ScalingRelation
  region : String
  occurrence : Option (Poisson α)
  deriving Repr

/-- What a single rupture outside a source is made from. -/
structure Scenario (α : Type) where
  scaling : ScalingRelation
  aspectRatio : α
  upper : α
  lower : α
  plane : NodalPlane α
  hypocenter : Point α
  rate : α
  occurrence : Option (Poisson α)
  deriving Repr

variable {α : Type} [Scalar α]

namespace Rupture

/-- The rupture has no surface geometry. -/
def isPoint (r : Rupture α) : Bool :=
  match r.surface with
  | .point => true
  | .planar _ => false

/-- The surface, if the rupture has one. -/
def planar? (r : Rupture α) : Option (PlanarSurface α) :=
  match r.surface with
  | .point => none
  | .planar surface => some surface

/-- The strike of the surface; zero for a rupture without one. -/
def strike (r : Rupture α) : α :=
  match r.surface with
  | .point => 0.0
  | .planar surface => surface.strike

/-- The probability of at least one occurrence, if the occurrence in time is
    known. -/
def probability? (r : Rupture α) : Option α :=
  r.occurrence.map fun tom => tom.probability r.rate

end Rupture

namespace RuptureSetting

/-- What the geometry of a rupture of this source is computed from. -/
def input (setting : RuptureSetting α) (magnitude : α) (plane : NodalPlane α)
    (hypocenter : Point α) : RuptureInput α :=
  { upper := setting.upper
    lower := setting.lower
    aspectRatio := setting.aspectRatio
    magnitude := magnitude
    area := setting.scaling.medianArea magnitude (some plane.rake)
    strike := plane.strike
    dip := plane.dip
    rake := plane.rake
    longitude := hypocenter.longitude
    latitude := hypocenter.latitude
    depth := hypocenter.depth }

/-- What the projection radius of a rupture on the given plane is computed
    from. The radius does not depend on the hypocenter. -/
def radiusInput (setting : RuptureSetting α) (magnitude : α) (plane : NodalPlane α) :
    RuptureInput α :=
  setting.input magnitude plane (Point.onSurface 0.0 0.0)

/-- Half the projected diagonal of a rupture on the given plane. -/
def projectionRadius (setting : RuptureSetting α) (magnitude : α) (plane : NodalPlane α) : α :=
  (setting.radiusInput magnitude plane).extent.projectionRadius

/-- A rupture of this source: without geometry if `asPoint`, else on its plane.
    With `shift`, the hypocenter of a planar rupture is the centre of its
    plane. -/
def rupture (setting : RuptureSetting α) (magnitude rate : α) (plane : NodalPlane α)
    (hypocenter : Point α) (asPoint shift : Bool) : Rupture α :=
  if asPoint then
    { magnitude := magnitude
      rake := plane.rake
      region := setting.region
      hypocenter := hypocenter
      surface := .point
      rate := rate
      occurrence := setting.occurrence }
  else
    let surface := (setting.input magnitude plane hypocenter).surface shift
    { magnitude := magnitude
      rake := plane.rake
      region := setting.region
      hypocenter := surface.hypocenter
      surface := .planar surface
      rate := rate
      occurrence := setting.occurrence }

end RuptureSetting

namespace Scenario

/-- The scenario of a vanishing rupture on a vertical plane in the middle of a
    layer from 10 to 30 km. -/
def standard : Scenario α :=
  { scaling := .point
    aspectRatio := 1.0
    upper := 10.0
    lower := 30.0
    plane := { strike := 0.0, dip := 90.0, rake := 0.0 }
    hypocenter := { longitude := 0.0, latitude := 0.0, depth := 20.0 }
    rate := 1.0
    occurrence := none }

/-- What the geometry of the rupture is computed from. -/
def input (s : Scenario α) (magnitude : α) : RuptureInput α :=
  { upper := s.upper
    lower := s.lower
    aspectRatio := s.aspectRatio
    magnitude := magnitude
    area := s.scaling.medianArea magnitude (some s.plane.rake)
    strike := s.plane.strike
    dip := s.plane.dip
    rake := s.plane.rake
    longitude := s.hypocenter.longitude
    latitude := s.hypocenter.latitude
    depth := s.hypocenter.depth }

/-- The planar rupture of a scenario. Its hypocenter is the one given. -/
def rupture (s : Scenario α) (region : String) (magnitude : α) : Rupture α :=
  let input := s.input magnitude
  let surface := { input.surfaceOf input.extent with hypocenter := s.hypocenter }
  { magnitude := magnitude
    rake := s.plane.rake
    region := region
    hypocenter := surface.hypocenter
    surface := .planar surface
    rate := s.rate
    occurrence := s.occurrence }

end Scenario

end Seismicity
