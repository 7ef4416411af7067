import Seismicity.Source.Point

/-!
# Clusters of Point Sources

Nearby point sources treated as one. The full enumeration of a cluster is that
of its members, one after the other; what has to be cheap uses one geometry,
the mean of the members' weighted by their rates.

## Main definitions

* `AverageGeometry`: The mean geometry of point sources.
* `AverageGeometry.of`: The mean, for sources that have one.
* `Cluster`: Point sources on one averaged location.
* `Cluster.form`: The cluster of sources that agree.
* `Cluster.bins`: The members' rates, summed by magnitude.
-/

namespace Seismicity

/-- Why point sources do not form a cluster: there are none, or one of them
    differs from the first. -/
inductive ClusterFault (α : Type) where
  | empty
  | region (id region expected first : String)
  | scaling (id : String) (relation expected : ScalingRelation) (first : String)
  | occurrence (id : String) (tom expected : Option (Poisson α)) (first : String)
  deriving Repr

/-- The mean geometry of point sources: location, hypocentral depth, nodal
    plane, seismogenic layer and aspect ratio. -/
structure AverageGeometry (α : Type) where
  longitude : α
  latitude : α
  depth : α
  strike : α
  dip : α
  rake : α
  upper : α
  lower : α
  aspectRatio : α
  deriving BEq, Repr

/-- Point sources on one averaged location. -/
structure Cluster (α : Type) where
  id : String
  group : Nat
  modelIndex : Nat
  region : String
  scaling : ScalingRelation
  occurrence : Option (Poisson α)
  geometry : AverageGeometry α
  members : List (PointSource α)
  radius : Option α
  deriving BEq, Repr

variable {α : Type} [Scalar α]

namespace AverageGeometry

/-- The mean nodal plane. -/
def plane (g : AverageGeometry α) : NodalPlane α :=
  { strike := g.strike, dip := g.dip, rake := g.rake }

/-- The mean location, at the mean hypocentral depth. -/
def location (g : AverageGeometry α) : Point α :=
  { longitude := g.longitude, latitude := g.latitude, depth := g.depth }

/-- How a source differs from the first: in tectonic region type or in scaling
    relation. -/
def mismatch? (first source : PointSource α) : Option (ClusterFault α) :=
  if source.region != first.region then
    some (.region source.id source.region first.region first.id)
  else if source.scaling != first.scaling then
    some (.scaling source.id source.scaling first.scaling first.id)
  else none

/-- Why sources have no common geometry. -/
def fault? : List (PointSource α) → Option (ClusterFault α)
  | [] => some .empty
  | first :: rest => rest.findSome? (mismatch? first)

/-- The total rates of sources, as weights; if their sum is not positive, all
    weigh the same. -/
def weights (sources : List (PointSource α)) : List α :=
  let rates := sources.map PointSource.totalRate
  if 0.0 < Scalar.sum rates then rates else rates.map fun _ => 1.0

/-- The sum by which weighted sums are divided. -/
def totalWeight (sources : List (PointSource α)) : α :=
  let total := Scalar.sum (sources.map PointSource.totalRate)
  if 0.0 < total then total else Scalar.ofNat sources.length

/-- The weighted mean of a property of sources. -/
def mean (sources : List (PointSource α)) (property : PointSource α → α) : α :=
  ((weights sources).zip (sources.map property)).foldl
    (fun sum (weight, value) => sum + weight * value) 0.0 / totalWeight sources

/-- The mean geometry of sources. Each contributes its mean plane and depth;
    the location is rounded to six decimals. -/
def meanOf (sources : List (PointSource α)) : AverageGeometry α :=
  { longitude := Scalar.roundTo6 (mean sources fun s => s.location.longitude)
    latitude := Scalar.roundTo6 (mean sources fun s => s.location.latitude)
    depth := mean sources fun s => s.averageHypocenter.depth
    strike := mean sources fun s => s.averagePlane.strike
    dip := mean sources fun s => s.averagePlane.dip
    rake := mean sources fun s => s.averagePlane.rake
    upper := mean sources fun s => s.upper
    lower := mean sources fun s => s.lower
    aspectRatio := mean sources fun s => s.aspectRatio }

/-- The mean geometry of sources that agree on region and scaling relation. -/
def of (sources : List (PointSource α)) : Except (ClusterFault α) (AverageGeometry α) :=
  match fault? sources with
  | some fault => .error fault
  | none => .ok (meanOf sources)

end AverageGeometry

/-- Merges bins, sorted by magnitude, into the bin `m` at which merging stands:
    magnitudes within the tolerance of `m` add their rates to it. -/
def mergeBins (m rate : α) : List (Bin α) → List (Bin α)
  | [] => [{ magnitude := m, rate := rate }]
  | bin :: rest =>
    if Scalar.abs (bin.magnitude - m) < magnitudeTolerance then mergeBins m (rate + bin.rate) rest
    else { magnitude := m, rate := rate } :: mergeBins bin.magnitude bin.rate rest

/-- Bins sorted by magnitude, those of one magnitude merged. -/
def mergedBins (bins : List (Bin α)) : List (Bin α) :=
  match bins.mergeSort (fun a b => Scalar.sortsBefore a.magnitude b.magnitude) with
  | [] => []
  | bin :: rest => mergeBins bin.magnitude bin.rate rest

namespace Cluster

/-- A source that differs from the first in its occurrence in time. -/
def occurrenceFault? : List (PointSource α) → Option (ClusterFault α)
  | [] => none
  | first :: rest =>
    ((first :: rest).find? fun s => !(s.occurrence == first.occurrence)).map fun s =>
      .occurrence s.id s.occurrence first.occurrence first.id

/-- The cluster of sources that agree on region, scaling relation and occurrence
    in time. It takes its tags from the first. -/
def form (id : String) (members : List (PointSource α)) :
    Except (ClusterFault α) (Cluster α) :=
  match AverageGeometry.of members, members with
  | .error fault, _ => .error fault
  | .ok _, [] => .error .empty
  | .ok geometry, first :: rest =>
    match occurrenceFault? (first :: rest) with
    | some fault => .error fault
    | none =>
      .ok
        { id := id
          group := first.group
          modelIndex := first.modelIndex
          region := first.region
          scaling := first.scaling
          occurrence := first.occurrence
          geometry := geometry
          members := first :: rest
          radius := none }

/-- The averaged location. -/
def location (c : Cluster α) : Point α := c.geometry.location

/-- What the averaged ruptures of the cluster share. -/
def setting (c : Cluster α) : RuptureSetting α :=
  { upper := c.geometry.upper
    lower := c.geometry.lower
    aspectRatio := c.geometry.aspectRatio
    scaling := c.scaling
    region := c.region
    occurrence := c.occurrence }

/-- The members' bins with a positive rate, merged by magnitude. -/
def bins (c : Cluster α) : List (Bin α) := mergedBins (c.members.flatMap PointSource.bins)

/-- The sum of the members' total rates. -/
def totalRate (c : Cluster α) : α := Scalar.sum (c.members.map PointSource.totalRate)

/-- The sum of the members' numbers of planes and depths. -/
def countOrientations (c : Cluster α) : Nat :=
  totalCount (c.members.map PointSource.countOrientations)

/-- The number of ruptures of the full enumeration. -/
def countRuptures (c : Cluster α) : Nat := totalCount (c.members.map PointSource.countRuptures)

/-- The full enumeration: the members' ruptures, member by member. -/
def ruptures (c : Cluster α) (options : RuptureOptions α) : List (Rupture α) :=
  c.members.flatMap fun s => s.ruptures options

/-- What the surfaces of the full enumeration are computed from. -/
def ruptureInputs (c : Cluster α) (options : RuptureOptions α) : List (RuptureInput α) :=
  c.members.flatMap fun s => s.ruptureInputs options

/-- One rupture for each merged magnitude on the averaged geometry; of point
    ruptures, one in five. -/
def averagedRuptures (c : Cluster α) (asPoint : Bool) : List (Rupture α) :=
  c.setting.averagedRuptures c.bins c.geometry.plane c.location asPoint

/-- What the surfaces of the averaged planar enumeration are computed from. -/
def averagedInputs (c : Cluster α) : List (RuptureInput α) :=
  c.setting.binInputs c.bins c.geometry.plane c.location

/-- The few ruptures of every tenth member. -/
def fewRuptures (c : Cluster α) : List (Rupture α) :=
  (everyNth 10 c.members).flatMap PointSource.fewRuptures

/-- What the radius at a magnitude is computed from. -/
def radiusInput (c : Cluster α) (magnitude : α) : RuptureInput α :=
  c.setting.radiusInput magnitude c.geometry.plane

/-- The projection radius of the averaged plane at a magnitude. -/
def radiusAt (c : Cluster α) (magnitude : α) : α :=
  (c.radiusInput magnitude).extent.projectionRadius

/-- The projection radius of the averaged plane at the greatest merged
    magnitude. It is computed once. -/
def maxRadius (c : Cluster α) : α :=
  c.radius.getD (c.radiusAt (greatestMagnitude c.bins))

/-- The cluster with its radius computed. -/
def withRadius (c : Cluster α) : Cluster α := { c with radius := some c.maxRadius }

/-- The circle of the radius around the averaged location. -/
def polygon (c : Cluster α) : Polygon α := Polygon.circle c.location c.maxRadius

/-- The envelope of the averaged location, enlarged by `margin` km and the
    radius. -/
def boundingBox (c : Cluster α) (margin : α) : BoundingBox α :=
  BoundingBox.aroundPoint c.location (margin + c.maxRadius)

end Cluster

end Seismicity
