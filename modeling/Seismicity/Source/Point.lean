import Seismicity.Pmf
import Seismicity.Polygon
import Seismicity.Recurrence
import Seismicity.Rupture.Basic

/-!
# Point Sources

Seismicity concentrated at one location. A point source combines a
magnitude-frequency distribution with distributions of nodal planes and of
hypocentral depths; every combination of the three is one rupture, at the
product of the rates and weights.

## Main definitions

* `PointSourceSpec`: The description of a point source.
* `PointSourceSpec.fault?`: Why a description is refused.
* `PointSource`: A described source with its group.
* `PointSource.ruptures`: The full enumeration.
* `PointSource.averagedRuptures`: One rupture for each magnitude.
* `PointSource.maxRadius`: The radius that envelops all ruptures.
-/

namespace Seismicity

/-- The description of a point source. -/
structure PointSourceSpec (α : Type) where
  id : String
  name : String
  /-- The tectonic region type. -/
  region : String
  recurrence : Recurrence α
  meshSpacing : α
  scaling : ScalingRelation
  aspectRatio : α
  occurrence : Option (Poisson α)
  /-- The upper edge of the seismogenic layer (km). -/
  upper : α
  /-- The lower edge of the seismogenic layer (km). -/
  lower : α
  /-- The epicentre; its depth is ignored. -/
  location : Point α
  planes : Pmf α (NodalPlane α)
  /-- The hypocentral depths (km). -/
  depths : Pmf α α
  deriving BEq, Repr

/-- A point source, tagged with the group it belongs to and with the index of
    its region and source model. Its location is on the ground. The radius is
    the one that envelops all ruptures, once it has been asked for. -/
structure PointSource (α : Type) extends PointSourceSpec α where
  group : Nat
  modelIndex : Nat
  radius : Option α
  deriving BEq, Repr

/-- Why the description of a point source is refused. -/
inductive SourceFault (α : Type) where
  | layer (lower upper : α)
  | hypocenter (depth upper lower : α)
  | elevation (upper : α)
  | location
  | plane (fault : PlaneFault α)
  | aspectRatio (value : α)
  | meshSpacing (value : α)
  | recurrence (fault : RecurrenceFault α)
  | noRate
  deriving Repr

/-- Which ruptures of a source are asked for. -/
structure RuptureOptions (α : Type) where
  /-- Only ruptures of this magnitude. -/
  magnitude : Option α
  /-- Ruptures without surface geometry. -/
  asPoint : Bool
  /-- The hypocenter is the centre of the plane. -/
  shift : Bool
  deriving Repr

variable {α : Type} [Scalar α]

/-- The highest point of the Earth (km, negative above the sea). -/
def earthElevation : α := -8.848

/-- Two magnitudes nearer than this belong to one bin. -/
def magnitudeTolerance : α := 0.000000001

/-- The averaged enumeration of point ruptures keeps one magnitude in this
    many. -/
def pointRuptureStride : Nat := 5

/-- The entries at positions `0, n, 2 n, …` of a list. -/
def everyNth {β : Type} (n : Nat) : List β → List β
  | [] => []
  | x :: rest => x :: everyNth n (rest.drop (n - 1))
termination_by xs => xs.length
decreasing_by
  simp only [List.length_drop, List.length_cons]
  omega

/-- The sum of counts. -/
def totalCount (counts : List Nat) : Nat := counts.foldr (· + ·) 0

/-- The greatest magnitude of some bins; zero if there are none. -/
def greatestMagnitude (bins : List (Bin α)) : α :=
  match bins.map Bin.magnitude with
  | [] => 0.0
  | m :: rest => rest.foldl (fun best m => if Scalar.sortsBefore best m then m else best) m

namespace PointSourceSpec

/-- Why a description is refused. The layer is checked first, then the
    hypocentral depths, the elevation, the location, the planes, the aspect
    ratio, the mesh and the magnitude-frequency distribution. -/
def fault? (spec : PointSourceSpec α) : Option (SourceFault α) :=
  if !(decide (spec.upper < spec.lower)) then some (.layer spec.lower spec.upper)
  else
    match spec.depths.entries.find? fun entry =>
        !(spec.upper ≤ entry.2 && entry.2 ≤ spec.lower) with
    | some entry => some (.hypocenter entry.2 spec.upper spec.lower)
    | none =>
      if !(decide (earthElevation < spec.upper)) then some (.elevation spec.upper)
      else if !(Scalar.isFinite spec.location.longitude
          && Scalar.isFinite spec.location.latitude) then
        some .location
      else
        match spec.planes.entries.findSome? fun entry => entry.2.fault? with
        | some fault => some (.plane fault)
        | none =>
          if !(decide (0.0 < spec.aspectRatio)) || !Scalar.isFinite spec.aspectRatio then
            some (.aspectRatio spec.aspectRatio)
          else if !(decide (0.0 < spec.meshSpacing)) then some (.meshSpacing spec.meshSpacing)
          else
            match spec.recurrence.fault? with
            | some fault => some (.recurrence fault)
            | none =>
              if spec.recurrence.bins.all fun bin => bin.rate ≤ 0.0 then some .noRate else none

end PointSourceSpec

namespace RuptureSetting

/-- What one rupture for each bin is computed from, on one plane and
    hypocenter. -/
def binInputs (setting : RuptureSetting α) (bins : List (Bin α)) (plane : NodalPlane α)
    (hypocenter : Point α) : List (RuptureInput α) :=
  bins.map fun bin => setting.input bin.magnitude plane hypocenter

/-- One rupture for each bin on one plane and hypocenter; of point ruptures,
    one in five. -/
def averagedRuptures (setting : RuptureSetting α) (bins : List (Bin α)) (plane : NodalPlane α)
    (hypocenter : Point α) (asPoint : Bool) : List (Rupture α) :=
  (everyNth (if asPoint then pointRuptureStride else 1) bins).map fun bin =>
    setting.rupture bin.magnitude bin.rate plane hypocenter asPoint false

end RuptureSetting

namespace PointSource

/-- The source of an accepted description. It belongs to group zero. -/
def ofSpec (spec : PointSourceSpec α) : Except (SourceFault α) (PointSource α) :=
  match spec.fault? with
  | some fault => .error fault
  | none =>
    .ok
      { spec with
        location := spec.location.atDepth 0.0
        group := 0
        modelIndex := 0
        radius := none }

/-- The source with other tags. -/
def withGroup (s : PointSource α) (group modelIndex : Nat) : PointSource α :=
  { s with group := group, modelIndex := modelIndex }

/-- What the ruptures of the source share. -/
def setting (s : PointSource α) : RuptureSetting α :=
  { upper := s.upper
    lower := s.lower
    aspectRatio := s.aspectRatio
    scaling := s.scaling
    region := s.region
    occurrence := s.occurrence }

/-- The bins with a positive rate, in order. -/
def bins (s : PointSource α) : List (Bin α) :=
  s.recurrence.bins.filter fun bin => 0.0 < bin.rate

/-- The sum of the positive rates. -/
def totalRate (s : PointSource α) : α := Scalar.sum (s.bins.map Bin.rate)

/-- The bins that the options ask for. -/
def selectedBins (s : PointSource α) (options : RuptureOptions α) : List (Bin α) :=
  match options.magnitude with
  | none => s.bins
  | some m => s.bins.filter fun bin => Scalar.abs (bin.magnitude - m) < magnitudeTolerance

/-- One entry for each nodal plane, hypocentral depth and selected bin, in that
    nesting order. `f` is given the bin, with its rate multiplied by the weights
    of plane and depth, the plane, and the hypocenter. -/
def combinations {β : Type} (s : PointSource α) (options : RuptureOptions α)
    (f : Bin α → NodalPlane α → Point α → β) : List β :=
  let bins := s.selectedBins options
  s.planes.entries.flatMap fun (planeWeight, plane) =>
    s.depths.entries.flatMap fun (depthWeight, depth) =>
      let hypocenter := s.location.atDepth depth
      bins.map fun bin =>
        f { bin with rate := bin.rate * planeWeight * depthWeight } plane hypocenter

/-- The full enumeration: one rupture for each combination. -/
def ruptures (s : PointSource α) (options : RuptureOptions α) : List (Rupture α) :=
  let setting := s.setting
  s.combinations options fun bin plane hypocenter =>
    setting.rupture bin.magnitude bin.rate plane hypocenter options.asPoint options.shift

/-- What the surfaces of the full enumeration are computed from. -/
def ruptureInputs (s : PointSource α) (options : RuptureOptions α) : List (RuptureInput α) :=
  let setting := s.setting
  s.combinations options fun bin plane hypocenter =>
    setting.input bin.magnitude plane hypocenter

/-- What ruptures of given magnitudes on one plane are computed from, at a
    hypocenter or at the location of the source. -/
def inputs (s : PointSource α) (magnitudes : List α) (plane : NodalPlane α)
    (hypocenter : Option (Point α)) : List (RuptureInput α) :=
  magnitudes.map fun magnitude =>
    s.setting.input magnitude plane (hypocenter.getD s.location)

/-- The weighted mean of the nodal planes. -/
def averagePlane (s : PointSource α) : NodalPlane α :=
  { strike := s.planes.average NodalPlane.strike
    dip := s.planes.average NodalPlane.dip
    rake := s.planes.average NodalPlane.rake }

/-- The location, rounded to six decimals, at the weighted mean of the
    hypocentral depths. -/
def averageHypocenter (s : PointSource α) : Point α :=
  { longitude := Scalar.roundTo6 s.location.longitude
    latitude := Scalar.roundTo6 s.location.latitude
    depth := s.depths.average fun depth => depth }

/-- One rupture for each magnitude on the mean plane and hypocenter; of point
    ruptures, one in five. -/
def averagedRuptures (s : PointSource α) (asPoint : Bool) : List (Rupture α) :=
  s.setting.averagedRuptures s.bins s.averagePlane s.averageHypocenter asPoint

/-- What the surfaces of the averaged planar enumeration are computed from. -/
def averagedInputs (s : PointSource α) : List (RuptureInput α) :=
  s.setting.binInputs s.bins s.averagePlane s.averageHypocenter

/-- The cheapest sample of ruptures. -/
def fewRuptures (s : PointSource α) : List (Rupture α) := s.averagedRuptures true

/-- The number of nodal planes times the number of hypocentral depths. -/
def countOrientations (s : PointSource α) : Nat := s.planes.size * s.depths.size

/-- The number of ruptures of the full enumeration. -/
def countRuptures (s : PointSource α) : Nat := s.bins.length * s.countOrientations

/-- What the radius at a magnitude is computed from: one rupture on each
    plane. -/
def radiusInputs (s : PointSource α) (magnitude : α) : List (RuptureInput α) :=
  s.planes.entries.map fun entry => s.setting.radiusInput magnitude entry.2

/-- The radius that envelops every rupture of a magnitude: half of the greatest
    diagonal of their projections onto the ground. -/
def radiusAt (s : PointSource α) (magnitude : α) : α :=
  (s.radiusInputs magnitude).foldl
    (fun radius input => Scalar.greater radius input.extent.projectionRadius) 0.0

/-- The radius that envelops every rupture: the one at the greatest magnitude.
    It is computed once. -/
def maxRadius (s : PointSource α) : α :=
  s.radius.getD (s.radiusAt (greatestMagnitude s.bins))

/-- The source with its radius computed. -/
def withRadius (s : PointSource α) : PointSource α := { s with radius := some s.maxRadius }

/-- What the radius of a rupture, turned to the given dip, is computed from. -/
def turnedInput (s : PointSource α) (r : Rupture α) (dip : α) : RuptureInput α :=
  s.setting.radiusInput r.magnitude { strike := r.strike, dip := dip, rake := r.rake }

/-- The projection radius of a rupture of this source, turned to the given
    dip. -/
def ruptureRadius (s : PointSource α) (r : Rupture α) (dip : α) : α :=
  (s.turnedInput r dip).extent.projectionRadius

/-- The circle that envelops every rupture. -/
def polygon (s : PointSource α) : Polygon α := Polygon.circle s.location s.maxRadius

/-- The envelope of every place within `margin` km of some rupture. -/
def boundingBox (s : PointSource α) (margin : α) : BoundingBox α :=
  BoundingBox.aroundPoint s.location (margin + s.maxRadius)

end PointSource

end Seismicity
