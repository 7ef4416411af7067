import Seismicity.Scalar

/-!
# Nodal Planes

The orientation of a fault plane, in degrees, and the ranges of its angles.

## Main definitions

* `NodalPlane`: Strike, dip and rake.
* `PlaneFault`: The angle that is out of range.
* `NodalPlane.checked`: A plane whose angles are all in range.
-/

namespace Seismicity

/-- The orientation of a fault plane. The strike is the azimuth of the trace,
    with the plane dipping to its right; the dip is the angle to the ground;
    the rake is the direction of slip within the plane. -/
structure NodalPlane (α : Type) where
  strike : α
  dip : α
  rake : α
  deriving BEq, Repr

/-- An angle of a nodal plane that is out of range. -/
inductive PlaneFault (α : Type) where
  | strike (value : α)
  | dip (value : α)
  | rake (value : α)
  deriving Repr

namespace NodalPlane

variable {α : Type} [Scalar α]

/-- A strike lies in `[0, 360)`. -/
def strikeFault? (strike : α) : Option (PlaneFault α) :=
  if Scalar.isFinite strike && (0.0 : α) ≤ strike && strike < 360.0 then none
  else some (.strike strike)

/-- A dip lies in `(0, 90]`. -/
def dipFault? (dip : α) : Option (PlaneFault α) :=
  if !Scalar.isFinite dip || dip ≤ 0.0 || (90.0 : α) < dip then some (.dip dip) else none

/-- A rake lies in `[-180, 180]`. -/
def rakeFault? (rake : α) : Option (PlaneFault α) :=
  if Scalar.isFinite rake && (-180.0 : α) ≤ rake && rake ≤ 180.0 then none
  else some (.rake rake)

/-- The first angle that is out of range, in the order strike, dip, rake. -/
def fault? (p : NodalPlane α) : Option (PlaneFault α) :=
  (strikeFault? p.strike).or ((dipFault? p.dip).or (rakeFault? p.rake))

/-- A plane whose angles are all in range. -/
def checked (strike dip rake : α) : Except (PlaneFault α) (NodalPlane α) :=
  let plane : NodalPlane α := { strike := strike, dip := dip, rake := rake }
  match plane.fault? with
  | some fault => .error fault
  | none => .ok plane

end NodalPlane

end Seismicity
