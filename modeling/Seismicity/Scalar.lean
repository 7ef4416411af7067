/-!
# Scalars

The arithmetic in which sources are described and ruptures computed. Every
quantity of the library has a type `α` with a `Scalar` instance, and every
formula is written once over that class: with doubles it is what a program
runs, with the real numbers it is what the formula means.

Constants are written as decimals (`360.0`), which both kinds of numbers
read exactly or to the nearest value.

## Main definitions

* `Scalar`: Arithmetic with comparisons, rounding and trigonometry.
* `Scalar.sum`: The sum of a list, from left to right.
* `Scalar.least`, `Scalar.greatest`: The extremes of a list.
* `Scalar.roundTo6`: Rounding to six decimals.
-/

namespace Seismicity

/-- Arithmetic in which sources are described. Comparisons may all fail (a
    double that is not a number is below, above and equal to nothing), so
    each rule says which comparison it makes. -/
class Scalar (α : Type) extends Add α, Sub α, Mul α, Div α, Neg α, LT α, LE α, BEq α,
    OfScientific α where
  decideLt (x y : α) : Decidable (x < y)
  decideLe (x y : α) : Decidable (x ≤ y)
  /-- A count as a number. -/
  ofNat : Nat → α
  /-- Above every number that has an upper neighbour: what the least of no
      numbers is. -/
  unbounded : α
  pi : α
  isFinite : α → Bool
  abs : α → α
  sqrt : α → α
  sin : α → α
  cos : α → α
  tan : α → α
  asin : α → α
  atan : α → α
  /-- The angle of the plane vector with the given ordinate and abscissa. -/
  atan2 (ordinate abscissa : α) : α
  /-- The length of the plane vector with the given components. -/
  hypot : α → α → α
  /-- Ten to the given power. -/
  tenPow : α → α
  /-- `e` to the given power, less one. -/
  expMinusOne : α → α
  floor : α → α
  ceil : α → α
  /-- The nearest whole number; a half goes away from zero. -/
  round : α → α
  /-- The remainder of the first number by the second, never negative. -/
  remainder : α → α → α
  /-- The whole part as a count; below zero it is zero. -/
  wholePart : α → Nat
  /-- The number of steps `0, 1, …` up to a whole number, both ends
      counted. -/
  stepCount : α → Nat
  /-- The total order in which magnitudes are sorted. -/
  sortsBefore : α → α → Bool

namespace Scalar

variable {α : Type} [Scalar α]

instance (x y : α) : Decidable (x < y) := decideLt x y

instance (x y : α) : Decidable (x ≤ y) := decideLe x y

/-- Degrees as radians. -/
def toRadians (x : α) : α := x * (pi / 180.0)

/-- Radians as degrees. -/
def toDegrees (x : α) : α := x * (180.0 / pi)

/-- A number times itself. -/
def square (x : α) : α := x * x

/-- The lesser of two numbers; what is not a number gives way to the other. -/
def lesser (x y : α) : α :=
  if y < x then y else if x == x then x else y

/-- The greater of two numbers; what is not a number gives way to the other. -/
def greater (x y : α) : α :=
  if x < y then y else if x == x then x else y

/-- The nearest number of `[-1, 1]`. -/
def clampUnit (x : α) : α :=
  if x < -1.0 then -1.0 else if 1.0 < x then 1.0 else x

/-- The sum of a list, from left to right. It starts from minus zero, which
    changes no number it is added to, not even the sign of a zero. -/
def sum (xs : List α) : α := xs.foldl (· + ·) (-0.0)

/-- The least of a list, over the entries that are numbers. -/
def least (xs : List α) : α :=
  match xs.filter (fun x => x == x) with
  | [] => unbounded
  | x :: rest => rest.foldl lesser x

/-- The greatest of a list, over the entries that are numbers. -/
def greatest (xs : List α) : α :=
  match xs.filter (fun x => x == x) with
  | [] => -unbounded
  | x :: rest => rest.foldl greater x

/-- A number rounded to six decimals. -/
def roundTo6 (x : α) : α := round (x * 1000000.0) / 1000000.0

end Scalar

end Seismicity
