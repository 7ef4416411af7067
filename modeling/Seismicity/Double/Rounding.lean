import Seismicity.Double.Parts

/-!
# Whole Doubles and Remainders

Rounding of doubles to whole numbers, and the remainder of one double by
another. Both are computed on the exact parts, so no step rounds.

## Main definitions

* `Double.floor`, `Double.ceil`, `Double.round`: Whole neighbours.
* `Double.remainder`: The remainder that is never negative.
-/

namespace Seismicity

namespace Double

/-- The whole number with the given sign; zero keeps its sign. -/
def whole (negative : Bool) (n : Nat) : Float :=
  ofParts { negative := negative, significand := n, exponent := 0 }

/-- Replaces a double that has a fraction by a whole number: `choose` is
    given the sign, the whole part of the magnitude, the numerator of its
    fraction and the denominator. -/
def toWhole (choose : Bool → Nat → Nat → Nat → Nat) (x : Float) : Float :=
  if !x.isFinite then x
  else
    let p := parts x
    match p.exponent with
    | .ofNat _ => x
    | .negSucc k =>
      let unit := twoTo (k + 1)
      whole p.negative
        (choose p.negative (p.significand / unit) (p.significand % unit) unit)

/-- The greatest whole number that is not above a double. -/
def floor : Float → Float :=
  toWhole fun negative n fraction _ => if negative && fraction != 0 then n + 1 else n

/-- The least whole number that is not below a double. -/
def ceil : Float → Float :=
  toWhole fun negative n fraction _ => if !negative && fraction != 0 then n + 1 else n

/-- The nearest whole number; a half goes away from zero. -/
def round : Float → Float :=
  toWhole fun _ n fraction unit => if unit ≤ 2 * fraction then n + 1 else n

/-- The remainder of `x` by `y` with the sign of `x`. Both are whole multiples
    of the smaller of their two powers of two. -/
def truncatedRemainder (x y : Float) : Float :=
  if !x.isFinite || y.isNaN || y == 0.0 then 0.0 / 0.0
  else if !y.isFinite then x
  else
    let p := parts x
    let d := parts y
    let unit := min p.exponent d.exponent
    ofParts
      { negative := p.negative
        significand :=
          shift p.significand (p.exponent - unit) % shift d.significand (d.exponent - unit)
        exponent := unit }

/-- The remainder of `x` by `y` that is never negative. -/
def remainder (x y : Float) : Float :=
  let r := truncatedRemainder x y
  if r < 0.0 then r + y.abs else r

end Double

end Seismicity
