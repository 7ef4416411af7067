import Seismicity.Scalar

/-!
# Magnitude Scaling Relations

The median rupture area (km²) for a magnitude and a rake, and the standard
deviation of its decimal logarithm.

## Main definitions

* `FaultingStyle`: The style of faulting that a rake stands for.
* `ScalingRelation`: The published relations that are supported.
* `ScalingRelation.medianArea`, `ScalingRelation.areaDeviation`.
-/

namespace Seismicity

/-- The style of faulting. -/
inductive FaultingStyle where
  | all
  | strikeSlip
  | thrust
  | normal
  deriving DecidableEq, Repr

/-- The style of faulting that a rake stands for: strike-slip within 45 degrees
    of the horizontal, else thrust upwards and normal downwards. -/
def FaultingStyle.ofRake {α : Type} [Scalar α] : Option α → FaultingStyle
  | none => .all
  | some rake =>
    if ((-45.0 : α) ≤ rake && rake ≤ 45.0) || (135.0 : α) ≤ rake || rake ≤ -135.0 then
      .strikeSlip
    else if 0.0 < rake then .thrust
    else .normal

/-- A relation between magnitude and rupture area. -/
inductive ScalingRelation where
  /-- Wells and Coppersmith (1994): depends on the rake. -/
  | wc1994
  /-- A test relation: the decimal logarithm of the area is `M - 4`. -/
  | peer
  /-- A vanishing area, which turns every rupture into a point. -/
  | point
  /-- Germany (2018): the decimal logarithm of the area is `-2.44 + 0.59 M`. -/
  | germany
  deriving DecidableEq, Repr

namespace ScalingRelation

/-- All relations, in the order in which they are listed. -/
def all : List ScalingRelation := [.wc1994, .peer, .point, .germany]

/-- The name of a relation. -/
def name : ScalingRelation → String
  | .wc1994 => "WC1994"
  | .peer => "PeerMSR"
  | .point => "PointMSR"
  | .germany => "GermanyMSR"

/-- The relation with a given name. -/
def ofName? (name : String) : Option ScalingRelation :=
  all.find? fun relation => relation.name == name

variable {α : Type} [Scalar α]

/-- The median rupture area for a magnitude and, where the relation depends on
    it, a rake. -/
def medianArea (relation : ScalingRelation) (magnitude : α) (rake : Option α) : α :=
  match relation with
  | .wc1994 =>
    match FaultingStyle.ofRake rake with
    | .all => Scalar.tenPow (-3.49 + 0.91 * magnitude)
    | .strikeSlip => Scalar.tenPow (-3.42 + 0.90 * magnitude)
    | .thrust => Scalar.tenPow (-3.99 + 0.98 * magnitude)
    | .normal => Scalar.tenPow (-2.87 + 0.82 * magnitude)
  | .peer => Scalar.tenPow (magnitude - 4.0)
  | .point => 0.0001
  | .germany => Scalar.tenPow (-2.44 + 0.59 * magnitude)

/-- The standard deviation of the decimal logarithm of the area. -/
def areaDeviation (relation : ScalingRelation) (rake : Option α) : α :=
  match relation with
  | .wc1994 =>
    match FaultingStyle.ofRake rake with
    | .all => 0.24
    | .strikeSlip => 0.22
    | .thrust => 0.26
    | .normal => 0.22
  | .peer => 0.25
  | .point => 0.0
  | .germany => 0.16

end ScalingRelation

end Seismicity
