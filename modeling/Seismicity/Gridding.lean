import Seismicity.Binning
import Seismicity.Source.Basic

/-!
# Gridding

Collapses the point sources that share a cell of a regular grid into clusters,
for one source group or for many. Sources of other kinds, and clusters made
before, pass untouched.

## Main definitions

* `Failure`: Why describing or gridding sources fails.
* `Gridding.gridSources`: The gridding pass over one group.
* `Gridding.gridGroups`: The pass over several batches.
* `Gridding.splitByGroup`: Sources batched by group.
* `Gridding.step`: One pass over a list of sources, group by group.
-/

namespace Seismicity

/-- Why describing or gridding sources fails. -/
inductive Failure (α : Type) where
  | plane (fault : PlaneFault α)
  | pmf (fault : PmfFault α)
  | recurrence (fault : RecurrenceFault α)
  | scalingName (name : String)
  | source (id : String) (fault : SourceFault α)
  | cluster (fault : ClusterFault α)
  | binning (fault : BinningFault α)
  | mixedGroups (expected found : Nat)
  deriving Repr

/-- Lists of sources by group, in ascending order of the groups. -/
abbrev Grouped (β : Type) := List (Nat × List β)

namespace Grouped

variable {β : Type}

/-- Appends entries to the list of a group. -/
def append (group : Nat) (entries : List β) : Grouped β → Grouped β
  | [] => [(group, entries)]
  | (g, present) :: rest =>
    if group < g then (group, entries) :: (g, present) :: rest
    else if group = g then (g, present ++ entries) :: rest
    else (g, present) :: append group entries rest

/-- All entries, group by group. -/
def toList (grouped : Grouped β) : List β := grouped.flatMap Prod.snd

end Grouped

/-- What a pass that laid out a grid reports: how many point sources on which
    grid fell into how many cells, and how many sources came out. -/
structure GridReport (α : Type) where
  group : Nat
  task : Nat
  points : Nat
  spacing : α
  deltaX : α
  deltaY : α
  cells : Nat
  collapsed : Nat
  input : Nat
  output : Nat
  deriving Repr

variable {α : Type} [Scalar α]

namespace Gridding

/-- A spacing that lays out a grid: one that is given and positive. -/
def positive? (spacing : Option α) : Option α := spacing.filter fun s => 0.0 < s

/-- The point sources among sources, in order. -/
def points (sources : List (Source α)) : List (PointSource α) :=
  sources.filterMap fun
    | .point s => some s
    | _ => none

/-- The sources that are not point sources, in order. -/
def others (sources : List (Source α)) : List (Source α) :=
  sources.filter fun
    | .point _ => false
    | _ => true

/-- The mean latitude of point sources. -/
def meanLatitude (sources : List (PointSource α)) : α :=
  (sources.map fun s => s.location.latitude).foldl (· + ·) 0.0 / Scalar.ofNat sources.length

/-- The spacing in degrees of longitude, at the mean latitude of the sources. -/
def deltaX (spacing : α) (sources : List (PointSource α)) : α :=
  Geodesy.angularDistance spacing (meanLatitude sources)

/-- The spacing in degrees of latitude. -/
def deltaY (spacing : α) : α := Geodesy.angularDistance spacing 0.0

/-- The cells of point sources, as lists of positions. -/
def cellsOf (spacing : α) (sources : List (PointSource α)) :
    Except (BinningFault α) (List (List Nat)) :=
  Binning.cells (sources.map fun s => s.location.longitude)
    (sources.map fun s => s.location.latitude) (deltaX spacing sources) (deltaY spacing)

/-- The id of the cluster in a cell. -/
def clusterId (task cell : Nat) : String :=
  "cps-" ++ toString task ++ "-" ++ toString cell

/-- The source that stands for a cell: its only member, or the cluster of its
    members; none for a cell without members. -/
def cellSource (task cell : Nat) (members : List (PointSource α)) :
    Except (ClusterFault α) (Option (Source α)) :=
  match members with
  | [] => .ok none
  | [s] => .ok (some (.point s))
  | _ =>
    match Cluster.form (clusterId task cell) members with
    | .error fault => .error fault
    | .ok c => .ok (some (.cluster c))

/-- Takes out what the slots at the given positions still hold, and returns it
    with the slots that are left. -/
def takeSlots {β : Type} : List Nat → List (Option β) → List β × List (Option β)
  | [], slots => ([], slots)
  | position :: rest, slots =>
    let (taken, left) := takeSlots rest (slots.set position none)
    (slots[position]?.join.toList ++ taken, left)

/-- The sources that stand for cells, numbered from `cell` on. The point sources
    of a cell are taken out of their slots. -/
def cellSources (task : Nat) (slots : List (Option (PointSource α))) (cell : Nat) :
    List (List Nat) → Except (ClusterFault α) (List (Source α))
  | [] => .ok []
  | positions :: rest =>
    let (members, left) := takeSlots positions slots
    match cellSource task cell members with
    | .error fault => .error fault
    | .ok source? =>
      match cellSources task left (cell + 1) rest with
      | .error fault => .error fault
      | .ok more => .ok (source?.toList ++ more)

/-- The first group among sources that differs from a given one. -/
def otherGroup? (group : Nat) (sources : List (Source α)) : Option Nat :=
  (sources.find? fun s => s.group != group).map Source.group

/-- Grids point sources, of which there are at least two. -/
def gridPoints (spacing : α) (task : Nat) (sources : List (PointSource α)) :
    Except (Failure α) (List (Source α)) :=
  match cellsOf spacing sources with
  | .error fault => .error (.binning fault)
  | .ok cells =>
    match cellSources task (sources.map some) 0 cells with
    | .error fault => .error (.cluster fault)
    | .ok out => .ok out

/-- The gridding pass over the sources of one group. Without a positive spacing
    they are returned as they are. Otherwise the sources that are not point
    sources come first, and then, in the order of the first members, what
    stands for each cell of the point sources. -/
def gridSources (sources : List (Source α)) (spacing : Option α) (task : Nat) :
    Except (Failure α) (Grouped (Source α)) :=
  match sources with
  | [] => .ok []
  | first :: _ =>
    match otherGroup? first.group sources with
    | some found => .error (.mixedGroups first.group found)
    | none =>
      match positive? spacing with
      | none => .ok [(first.group, sources)]
      | some spacing =>
        if (points sources).length < 2 then
          .ok [(first.group, others sources ++ (points sources).map .point)]
        else
          match gridPoints spacing task (points sources) with
          | .error failure => .error failure
          | .ok out => .ok [(first.group, others sources ++ out)]

/-- The number of clusters that cells become. -/
def collapsedCells (cells : List (List Nat)) : Nat :=
  (cells.filter fun cell => 1 < cell.length).length

/-- The report of a pass that succeeds after laying out a grid. -/
def report? (sources : List (Source α)) (spacing : Option α) (task : Nat) :
    Option (GridReport α) :=
  match sources, positive? spacing, gridSources sources spacing task with
  | first :: _, some s, .ok grouped =>
    let members := points sources
    if members.length < 2 then none
    else
      match cellsOf s members with
      | .error _ => none
      | .ok cells =>
        some
          { group := first.group
            task := task
            points := members.length
            spacing := s
            deltaX := deltaX s members
            deltaY := deltaY s
            cells := cells.length
            collapsed := collapsedCells cells
            input := sources.length
            output := grouped.toList.length }
  | _, _, _ => none

/-- The results of the passes over batches, numbered from `task` on. -/
def passes (spacing : Option α) (task : Nat) :
    List (List (Source α)) → Except (Failure α) (List (Grouped (Source α)))
  | [] => .ok []
  | batch :: rest =>
    match gridSources batch spacing task with
    | .error failure => .error failure
    | .ok grouped =>
      match passes spacing (task + 1) rest with
      | .error failure => .error failure
      | .ok more => .ok (grouped :: more)

/-- Joins results group by group, in order. -/
def merge (results : List (Grouped (Source α))) : Grouped (Source α) :=
  results.flatten.foldl (fun merged (group, sources) => merged.append group sources) []

/-- The gridding pass over several batches. The position of a batch is its task
    number. -/
def gridGroups (batches : List (List (Source α))) (spacing : Option α) :
    Except (Failure α) (Grouped (Source α)) :=
  match passes spacing 0 batches with
  | .error failure => .error failure
  | .ok results => .ok (merge results)

/-- Sources batched by group, in ascending order of the groups; each batch
    keeps the order of the sources. -/
def splitByGroup (sources : List (Source α)) : List (List (Source α)) :=
  let grouped : Grouped (Source α) :=
    sources.foldl (fun grouped s => Grouped.append s.group [s] grouped) []
  grouped.map Prod.snd

/-- One pass over a list of sources, group by group. -/
def step (spacing : Option α) (sources : List (Source α)) :
    Except (Failure α) (List (Source α)) :=
  match gridGroups (splitByGroup sources) spacing with
  | .error failure => .error failure
  | .ok grouped => .ok grouped.toList

/-- A run of passes. A pass that fails leaves the sources as they are. -/
def run (spacings : List (Option α)) (sources : List (Source α)) : List (Source α) :=
  spacings.foldl
    (fun sources spacing =>
      match step spacing sources with
      | .error _ => sources
      | .ok sources => sources)
    sources

end Gridding

end Seismicity
