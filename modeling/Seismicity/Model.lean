import Seismicity.Gridding

/-!
# Source Models

Models as their authors write them down: a name, an optional time span and
grid spacing, and an entry for each point source. Building a model turns
every entry into a point source, or fails at the first that is refused.

## Main definitions

* `SourceEntry`: The entry of a point source.
* `SourceModel`: A model.
* `SourceEntry.build`, `SourceModel.build`: The sources.
* `SourceEntry.unusualTotals`: Weights that do not sum to one.
-/

namespace Seismicity

/-- The entry of a point source in a model. -/
structure SourceEntry (α : Type) where
  id : String
  name : String
  region : String
  group : Nat
  modelIndex : Nat
  recurrence : Recurrence α
  /-- The name of the scaling relation. -/
  scaling : String
  aspectRatio : α
  meshSpacing : α
  upper : α
  lower : α
  longitude : α
  latitude : α
  /-- Nodal planes and their probabilities. -/
  planes : List (α × NodalPlane α)
  /-- Hypocentral depths and their probabilities. -/
  depths : List (α × α)
  deriving BEq, Repr

/-- A model: its name, the time span over which its sources are observed, the
    spacing of the grid by which they are collapsed, and the entries of its
    sources. -/
structure SourceModel (α : Type) where
  name : String
  timeSpan : Option α
  gridSpacing : Option α
  entries : List (SourceEntry α)
  deriving BEq, Repr

variable {α : Type} [Scalar α]

namespace SourceEntry

/-- The first plane that is out of range. -/
def planeFault? (entry : SourceEntry α) : Option (PlaneFault α) :=
  entry.planes.findSome? fun plane => plane.2.fault?

/-- The description of the source, once its planes, the name of its scaling
    relation and its two distributions are accepted, in this order. -/
def spec (entry : SourceEntry α) (tom : Option (Poisson α)) :
    Except (Failure α) (PointSourceSpec α) :=
  match entry.planeFault? with
  | some fault => .error (.plane fault)
  | none =>
    match ScalingRelation.ofName? entry.scaling with
    | none => .error (.scalingName entry.scaling)
    | some scaling =>
      match Pmf.ofEntries entry.planes with
      | .error fault => .error (.pmf fault)
      | .ok planes =>
        match Pmf.ofEntries entry.depths with
        | .error fault => .error (.pmf fault)
        | .ok depths =>
          .ok
            { id := entry.id
              name := entry.name
              region := entry.region
              recurrence := entry.recurrence
              meshSpacing := entry.meshSpacing
              scaling := scaling
              aspectRatio := entry.aspectRatio
              occurrence := tom
              upper := entry.upper
              lower := entry.lower
              location := Point.onSurface entry.longitude entry.latitude
              planes := planes
              depths := depths }

/-- The point source of an entry. -/
def build (entry : SourceEntry α) (tom : Option (Poisson α)) :
    Except (Failure α) (PointSource α) :=
  match entry.spec tom with
  | .error failure => .error failure
  | .ok spec =>
    match PointSource.ofSpec spec with
    | .error fault => .error (.source spec.id fault)
    | .ok source => .ok (source.withGroup entry.group entry.modelIndex)

/-- The sums of weights that differ from one, of the distributions that are
    looked at before the entry is refused, if it is. -/
def unusualTotals (entry : SourceEntry α) : List α :=
  if entry.planeFault?.isSome || (ScalingRelation.ofName? entry.scaling).isNone then []
  else
    (Pmf.unusualTotal? entry.planes).toList
      ++ (if (Pmf.fault? entry.planes).isSome then []
        else (Pmf.unusualTotal? entry.depths).toList)

end SourceEntry

namespace SourceModel

/-- The grid spacing, if it is positive. -/
def positiveSpacing? (model : SourceModel α) : Option α := Gridding.positive? model.gridSpacing

/-- The occurrence in time of every source of the model. -/
def occurrence (model : SourceModel α) : Option (Poisson α) :=
  model.timeSpan.map fun timeSpan => { timeSpan := timeSpan }

/-- The sources of a list of entries, in order. -/
def buildEntries (tom : Option (Poisson α)) :
    List (SourceEntry α) → Except (Failure α) (List (PointSource α))
  | [] => .ok []
  | entry :: rest =>
    match entry.build tom with
    | .error failure => .error failure
    | .ok source => (buildEntries tom rest).map (source :: ·)

/-- The sources of the model, in order. -/
def build (model : SourceModel α) : Except (Failure α) (List (Source α)) :=
  (buildEntries model.occurrence model.entries).map fun sources => sources.map .point

/-- The sums of weights that differ from one, up to the first entry that is
    refused. -/
def unusualTotals (tom : Option (Poisson α)) : List (SourceEntry α) → List α
  | [] => []
  | entry :: rest =>
    match entry.build tom with
    | .error _ => entry.unusualTotals
    | .ok _ => entry.unusualTotals ++ unusualTotals tom rest

end SourceModel

end Seismicity
