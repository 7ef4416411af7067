import Seismicity.Model

/-!
# What Values Hold

The doubles and the counts in the values that are exchanged, in the order in which
they are written. Conditions on all numbers of a value are conditions on the members
of these lists.

## Main definitions

* `Point.doubles`, …, `SourceModel.doubles`: The doubles of a value.
* `SourceEntry.counts`, `SourceModel.counts`, `OtherSource.counts`: The counts of a
  value.
-/

namespace Seismicity

variable {α : Type}

def Point.doubles (p : Point α) : List α := [p.longitude, p.latitude, p.depth]

def NodalPlane.doubles (p : NodalPlane α) : List α := [p.strike, p.dip, p.rake]

/-- Each weight, and what its value holds. -/
def weightedDoubles {β : Type} (held : β → List α) (entries : List (α × β)) : List α :=
  entries.flatMap fun entry => entry.1 :: held entry.2

theorem forall_mem_weightedDoubles {β : Type} {held : β → List α} {entries : List (α × β)}
    {P : α → Prop} : (∀ d ∈ weightedDoubles held entries, P d) ↔
      ∀ entry ∈ entries, P entry.1 ∧ ∀ d ∈ held entry.2, P d := by
  simp only [weightedDoubles, List.forall_mem_flatMap, List.forall_mem_cons]

def Pmf.doubles {β : Type} (held : β → List α) (p : Pmf α β) : List α :=
  weightedDoubles held p.entries

def BoundingBox.doubles (b : BoundingBox α) : List α := [b.west, b.south, b.east, b.north]

def Polygon.doubles (p : Polygon α) : List α := p.longitudes ++ p.latitudes

def Recurrence.doubles : Recurrence α → List α
  | .evenlyDiscretized low width rates => low :: width :: rates
  | .truncated low high width a b => [low, high, width, a, b]
  | .arbitrary magnitudes rates => magnitudes ++ rates

def Poisson.doubles (p : Poisson α) : List α := [p.timeSpan]

def RuptureInput.doubles (i : RuptureInput α) : List α :=
  [i.upper, i.lower, i.aspectRatio, i.magnitude, i.area, i.strike, i.dip, i.rake, i.longitude,
    i.latitude, i.depth]

def Extent.doubles (e : Extent α) : List α := [e.length, e.horizontal, e.vertical]

def AverageGeometry.doubles (g : AverageGeometry α) : List α :=
  [g.longitude, g.latitude, g.depth, g.strike, g.dip, g.rake, g.upper, g.lower, g.aspectRatio]

def PlanarSurface.doubles (s : PlanarSurface α) : List α :=
  s.strike :: s.dip :: (s.topLeft.doubles ++ s.topRight.doubles ++ s.bottomRight.doubles
    ++ s.bottomLeft.doubles ++ s.hypocenter.doubles)

def RuptureSurface.doubles : RuptureSurface α → List α
  | .point => []
  | .planar surface => surface.doubles

def Rupture.doubles (r : Rupture α) : List α :=
  r.magnitude :: r.rake :: r.rate :: (r.hypocenter.doubles ++ r.surface.doubles
    ++ (r.occurrence.map Poisson.doubles).getD [])

def SourceEntry.doubles (e : SourceEntry α) : List α :=
  [e.aspectRatio, e.meshSpacing, e.upper, e.lower, e.longitude, e.latitude]
    ++ e.recurrence.doubles ++ weightedDoubles NodalPlane.doubles e.planes
    ++ weightedDoubles (fun depth => [depth]) e.depths

def SourceEntry.counts (e : SourceEntry α) : List Nat := [e.group, e.modelIndex]

def SourceModel.doubles (m : SourceModel α) : List α :=
  m.timeSpan.toList ++ m.gridSpacing.toList ++ m.entries.flatMap SourceEntry.doubles

def SourceModel.counts (m : SourceModel α) : List Nat := m.entries.flatMap SourceEntry.counts

def OtherSource.counts (s : OtherSource) : List Nat := [s.group, s.modelIndex]

/-- The doubles of the description of a point source. -/
def PointSourceSpec.doubles (spec : PointSourceSpec α) : List α :=
  [spec.aspectRatio, spec.meshSpacing, spec.upper, spec.lower] ++ spec.location.doubles
    ++ spec.recurrence.doubles ++ (spec.occurrence.map Poisson.doubles).getD []
    ++ spec.planes.doubles NodalPlane.doubles ++ spec.depths.doubles (fun depth => [depth])

end Seismicity
