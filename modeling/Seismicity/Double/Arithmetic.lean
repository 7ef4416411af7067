import Seismicity.Scalar
import Seismicity.Double.Rounding

/-!
# Doubles as Scalars

The arithmetic of a running program. Sums, products, quotients, square roots
and roundings are those of the binary format; powers of ten and the other
elementary functions are within an ulp or two of the exact value.

## Main definitions

* `Double.tenPow`: Powers of ten, with the range of the format made explicit.
* `Double.expMinusOne`: `e ^ x - 1` without cancellation.
* `Double.hypot`: The length of a vector without overflow.
* The instance `Scalar Float`.
-/

namespace Seismicity

namespace Double

/-- Plus infinity. -/
def infinity : Float := 1.0 / 0.0

/-- Ten to the given power. From 309 on it exceeds every double, and up to
    -324 it is nearer to zero than to the least positive double. -/
def tenPow (x : Float) : Float :=
  if 309.0 ≤ x then infinity
  else if x ≤ -324.0 then 0.0
  else Float.pow 10.0 x

/-- `e ^ x - 1`. Near zero it is `x` and a few more terms of the series, which are
    so small beside `x` that their errors do not count. At most one away from
    zero the difference would cancel; there the error of `e ^ x` is divided out
    by the error of its logarithm. -/
def expMinusOne (x : Float) : Float :=
  let u := Float.exp x
  let difference := u - 1.0
  if u == 1.0 then x
  else if x.abs ≤ 1.0e-4 then x + x * x * (0.5 + x * (1.0 / 6.0 + x / 24.0))
  else if x.abs ≤ 1.0 then difference * x / Float.log u
  else difference

/-- The length of a vector with components `big` and `small`, of which the
    first is not the lesser and whose squares are in range: a square root, and
    one step of its correction by what its square is off. The step is written
    in differences that are nearly exact. -/
def hypotInRange (big small : Float) : Float :=
  let h := (big * big + small * small).sqrt
  let excess :=
    if h ≤ 2.0 * small then
      let d := h - small
      big * (2.0 * d - big) + (d - 2.0 * (big - small)) * d
    else
      let d := h - big
      2.0 * d * (big - 2.0 * small) + ((4.0 * d - small) * small + d * d)
  h - excess / (2.0 * h)

/-- The length of the vector `(x, y)`. Components whose squares would leave the
    range of the format are scaled by a power of two and the length is scaled
    back; a component too small to count is added. -/
def hypot (x y : Float) : Float :=
  let a := x.abs
  let b := y.abs
  if a == infinity || b == infinity then infinity
  else
    let big := if a < b then b else a
    let small := if a < b then a else b
    if small ≤ big * Float.scaleB 1.0 (-54) then big + small
    else if Float.scaleB 1.0 511 < big then
      let unit := Float.scaleB 1.0 600
      hypotInRange (big / unit) (small / unit) * unit
    else if small < Float.scaleB 1.0 (-459) then
      let unit := Float.scaleB 1.0 (-600)
      hypotInRange (big / unit) (small / unit) * unit
    else hypotInRange big small

/-- The total order of the bit patterns: minus zero before zero, and what is
    not a number at the ends. -/
def sortsBefore (x y : Float) : Bool :=
  let rank (z : Float) : Int :=
    let bits := z.toBits.toNat
    if bits < twoTo 63 then Int.ofNat bits else Int.ofNat (twoTo 63) - 1 - Int.ofNat bits
  rank x ≤ rank y

end Double

instance : Scalar Float where
  decideLt x y := inferInstanceAs (Decidable (x < y))
  decideLe x y := inferInstanceAs (Decidable (x ≤ y))
  ofNat := Float.ofNat
  unbounded := Double.infinity
  pi := 3.141592653589793
  isFinite := Float.isFinite
  abs := Float.abs
  sqrt := Float.sqrt
  sin := Float.sin
  cos := Float.cos
  tan := Float.tan
  asin := Float.asin
  atan := Float.atan
  atan2 := Float.atan2
  hypot := Double.hypot
  tenPow := Double.tenPow
  expMinusOne := Double.expMinusOne
  floor := Double.floor
  ceil := Double.ceil
  round := Double.round
  remainder := Double.remainder
  wholePart x := x.toUInt64.toNat
  stepCount x := (x.toUInt64 + 1).toNat
  sortsBefore := Double.sortsBefore

end Seismicity
