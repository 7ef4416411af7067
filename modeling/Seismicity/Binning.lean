import Seismicity.Scalar

/-!
# Binning into Grid Cells

Scattered points are binned into the cells of a regular grid. The cells of an
axis evenly span the range of the coordinates, and are as few as keeps them
no wider than the spacing.

## Main definitions

* `Axis`: The cells along one axis.
* `Axis.across`, `Axis.spanning`: The axis that spans given coordinates.
* `Axis.cellIndex`: The cell that holds a coordinate.
* `Binning.Filling`: Cells that are being filled.
* `Binning.cells`: The indices of points, grouped by cell.
-/

namespace Seismicity

/-- Why coordinates cannot be binned. -/
inductive BinningFault (α : Type) where
  | lengths (xs ys : Nat)
  | spacing (deltaX deltaY : α)
  | coordinates
  | tooFine (delta span cells : α)
  deriving Repr

/-- Regular cells along one axis: `cells` of them, each `width` wide, from
    `start` on. -/
structure Axis (α : Type) where
  start : α
  width : α
  cells : Nat
  deriving Repr

namespace Axis

variable {α : Type} [Scalar α]

/-- The most cells along one axis; with more, a double could no longer count
    them. -/
def maxCells : α := 1000000000000000.0

/-- The range of coordinates. -/
def span (values : List α) : α := Scalar.greatest values - Scalar.least values

/-- How many cells no wider than `delta` span the coordinates; at least one. -/
def cellsNeeded (values : List α) (delta : α) : α :=
  Scalar.greater (Scalar.ceil (span values / delta)) 1.0

/-- The cells that span the coordinates and are no wider than `delta`. -/
def across (values : List α) (delta : α) : Axis α :=
  let cells := Scalar.wholePart (cellsNeeded values delta)
  { start := Scalar.least values
    width := span values / Scalar.ofNat cells
    cells := cells }

/-- The axis over coordinates, if its cells can be counted. -/
def spanning (values : List α) (delta : α) : Except (BinningFault α) (Axis α) :=
  if cellsNeeded values delta ≤ maxCells then .ok (across values delta)
  else .error (.tooFine delta (span values) (cellsNeeded values delta))

/-- The cell that holds a coordinate. The last cell holds its upper edge. -/
def cellIndex (axis : Axis α) (value : α) : Nat :=
  if axis.width ≤ 0.0 then 0
  else
    min
      (Scalar.wholePart
        (Scalar.greater (Scalar.floor ((value - axis.start) / axis.width)) 0.0))
      (axis.cells - 1)

end Axis

namespace Binning

/-- Cells that are being filled: the place of each key among the cells, and the
    indices that the cells hold so far. -/
structure Filling (κ : Type) where
  places : List (κ × Nat)
  cells : List (List Nat)

/-- Adds an index to the cell of its key, or opens a new cell at the end. -/
def Filling.add {κ : Type} [BEq κ] (key : κ) (index : Nat) (f : Filling κ) : Filling κ :=
  match f.places.lookup key with
  | some place => { f with cells := f.cells.modify place (· ++ [index]) }
  | none => { places := (key, f.cells.length) :: f.places, cells := f.cells ++ [[index]] }

/-- The positions of a list of keys, grouped by key. Groups stand in the order
    of their first members, and members in the order of the list. -/
def groupPositions {κ : Type} [BEq κ] (keys : List κ) : List (List Nat) :=
  let start : Filling κ := { places := [], cells := [] }
  (keys.zipIdx.foldl (fun filling (key, index) => filling.add key index) start).cells

variable {α : Type} [Scalar α]

/-- Why coordinates and spacings cannot be used, before any axis is laid out. -/
def fault? (xs ys : List α) (deltaX deltaY : α) : Option (BinningFault α) :=
  if xs.length != ys.length then some (.lengths xs.length ys.length)
  else if !((0.0 : α) < deltaX && (0.0 : α) < deltaY)
      || !Scalar.isFinite deltaX || !Scalar.isFinite deltaY then
    some (.spacing deltaX deltaY)
  else if !(xs ++ ys).all Scalar.isFinite then some .coordinates
  else none

/-- The two axes over the coordinates of points. -/
def axes (xs ys : List α) (deltaX deltaY : α) :
    Except (BinningFault α) (Axis α × Axis α) :=
  match Axis.spanning xs deltaX with
  | .error fault => .error fault
  | .ok xAxis =>
    match Axis.spanning ys deltaY with
    | .error fault => .error fault
    | .ok yAxis => .ok (xAxis, yAxis)

/-- The cell of each point: its index along either axis. -/
def keys (axes : Axis α × Axis α) (xs ys : List α) : List (Nat × Nat) :=
  (xs.zip ys).map fun (x, y) => (axes.1.cellIndex x, axes.2.cellIndex y)

/-- The indices of points, grouped by the grid cell that holds them. Only cells
    that hold a point are listed, in the order of their first members. -/
def cells (xs ys : List α) (deltaX deltaY : α) :
    Except (BinningFault α) (List (List Nat)) :=
  match fault? xs ys deltaX deltaY with
  | some fault => .error fault
  | none =>
    if xs.isEmpty then .ok []
    else
      match axes xs ys deltaX deltaY with
      | .error fault => .error fault
      | .ok axes => .ok (groupPositions (keys axes xs ys))

end Binning

end Seismicity
