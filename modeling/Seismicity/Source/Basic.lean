import Seismicity.Source.Cluster

/-!
# Seismic Sources

The sources that a source group holds, and the view that point sources and
clusters share.

## Main definitions

* `OtherSource`: A source of another kind, carried along untouched.
* `Source`: A point source, a cluster, or a source of another kind.
* `PointLike`: What point sources and clusters have in common.
* `Source.leaves`: The sources that were not made by clustering.
-/

namespace Seismicity

/-- A source of another kind, carried along untouched. -/
structure OtherSource where
  id : String
  name : String
  region : String
  group : Nat
  modelIndex : Nat
  deriving BEq, Repr

/-- A seismic source. -/
inductive Source (α : Type) where
  | point (source : PointSource α)
  | cluster (source : Cluster α)
  | other (source : OtherSource)
  deriving BEq, Repr

/-- A point source or a cluster. -/
inductive PointLike (α : Type) where
  | single (source : PointSource α)
  | clustered (source : Cluster α)
  deriving Repr

variable {α : Type} [Scalar α]

namespace Source

/-- The id. -/
def id : Source α → String
  | .point s => s.id
  | .cluster c => c.id
  | .other o => o.id

/-- The group that the source belongs to. -/
def group : Source α → Nat
  | .point s => s.group
  | .cluster c => c.group
  | .other o => o.group

/-- The index of region and source model. -/
def modelIndex : Source α → Nat
  | .point s => s.modelIndex
  | .cluster c => c.modelIndex
  | .other o => o.modelIndex

/-- The tectonic region type. -/
def region : Source α → String
  | .point s => s.region
  | .cluster c => c.region
  | .other o => o.region

/-- A short label of the kind. -/
def kind : Source α → String
  | .point _ => "point"
  | .cluster _ => "collapsed"
  | .other _ => "other"

/-- The view as a point-like source, if it is one. -/
def pointLike? : Source α → Option (PointLike α)
  | .point s => some (.single s)
  | .cluster c => some (.clustered c)
  | .other _ => none

/-- The number of sources that the source stands for. -/
def memberCount : Source α → Nat
  | .cluster c => c.members.length
  | _ => 1

/-- The sources that were not made by clustering: the members of a cluster, and
    every other source itself. -/
def leaves : Source α → List (Source α)
  | .cluster c => c.members.map .point
  | s => [s]

end Source

namespace PointLike

/-- The source that is viewed. -/
def toSource : PointLike α → Source α
  | .single s => .point s
  | .clustered c => .cluster c

/-- The id. -/
def id : PointLike α → String
  | .single s => s.id
  | .clustered c => c.id

/-- The location; that of a cluster has a depth. -/
def location : PointLike α → Point α
  | .single s => s.location
  | .clustered c => c.location

/-- The bins with a positive rate. -/
def bins : PointLike α → List (Bin α)
  | .single s => s.bins
  | .clustered c => c.bins

/-- The sum of all positive rates. -/
def totalRate : PointLike α → α
  | .single s => s.totalRate
  | .clustered c => c.totalRate

/-- The number of planes and depths. -/
def countOrientations : PointLike α → Nat
  | .single s => s.countOrientations
  | .clustered c => c.countOrientations

/-- The number of ruptures of the full enumeration. -/
def countRuptures : PointLike α → Nat
  | .single s => s.countRuptures
  | .clustered c => c.countRuptures

/-- The full enumeration. -/
def ruptures : PointLike α → RuptureOptions α → List (Rupture α)
  | .single s, options => s.ruptures options
  | .clustered c, options => c.ruptures options

/-- The averaged enumeration. -/
def averagedRuptures : PointLike α → Bool → List (Rupture α)
  | .single s, asPoint => s.averagedRuptures asPoint
  | .clustered c, asPoint => c.averagedRuptures asPoint

/-- The cheapest sample of ruptures. -/
def fewRuptures : PointLike α → List (Rupture α)
  | .single s => s.fewRuptures
  | .clustered c => c.fewRuptures

/-- The radius at a magnitude. -/
def radiusAt : PointLike α → α → α
  | .single s, magnitude => s.radiusAt magnitude
  | .clustered c, magnitude => c.radiusAt magnitude

/-- The radius at the greatest magnitude. -/
def maxRadius : PointLike α → α
  | .single s => s.maxRadius
  | .clustered c => c.maxRadius

/-- The source with its radius computed. -/
def withRadius : PointLike α → PointLike α
  | .single s => .single s.withRadius
  | .clustered c => .clustered c.withRadius

/-- The circle around the location. -/
def polygon : PointLike α → Polygon α
  | .single s => s.polygon
  | .clustered c => c.polygon

/-- The envelope of the location, enlarged by a margin and the radius. -/
def boundingBox : PointLike α → α → BoundingBox α
  | .single s, margin => s.boundingBox margin
  | .clustered c, margin => c.boundingBox margin

/-- The clips made by the full enumeration. -/
def ruptureClips (p : PointLike α) (options : RuptureOptions α) : List (Clip α) :=
  if options.asPoint then []
  else
    match p with
    | .single s => (s.ruptureInputs options).filterMap RuptureInput.clip?
    | .clustered c => (c.ruptureInputs options).filterMap RuptureInput.clip?

/-- The clips made by the averaged enumeration. -/
def averagedClips (p : PointLike α) (asPoint : Bool) : List (Clip α) :=
  if asPoint then []
  else
    match p with
    | .single s => s.averagedInputs.filterMap RuptureInput.clip?
    | .clustered c => c.averagedInputs.filterMap RuptureInput.clip?

/-- The clips made by computing the radius at a magnitude. -/
def radiusClips (p : PointLike α) (magnitude : α) : List (Clip α) :=
  match p with
  | .single s => (s.radiusInputs magnitude).filterMap RuptureInput.clip?
  | .clustered c => ((c.radiusInput magnitude).clip?).toList

/-- The clips made by computing the radius at the greatest magnitude; none once
    it has been computed. -/
def maxRadiusClips (p : PointLike α) : List (Clip α) :=
  let known :=
    match p with
    | .single s => s.radius
    | .clustered c => c.radius
  if known.isSome then [] else p.radiusClips (greatestMagnitude p.bins)

end PointLike

end Seismicity
