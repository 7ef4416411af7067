import Seismicity.Decimal.Basic

/-!
# Rounded Decimals

Doubles rounded to a number of places after the point, or to a number of
significant digits. The exact value of the double is rounded once; a half
goes to the even neighbour.

## Main definitions

* `Double.fixed`: The text with a given number of places.
* `Decimal.toPlaces`, `Decimal.toSignificant`: Rounded decimals.
-/

namespace Seismicity

namespace Decimal

/-- A nonnegative number in units of the last of `places` places. -/
def toPlaces (places : Nat) (p : Double.Parts) : Nat :=
  let (n, d) := quotient p.significand p.exponent (Int.ofNat places)
  roundQuotient n d

/-- A positive number rounded to the given number of significant digits. -/
def toSignificant (count : Nat) (p : Double.Parts) : Decimal :=
  let exponent := leadingPlace p.significand p.exponent - Int.ofNat count
  let (n, d) := quotient p.significand p.exponent (-exponent)
  trim { coefficient := roundQuotient n d, exponent := exponent }

end Decimal

namespace Double

/-- The text of a double with a fixed number of places after the point. -/
def fixed (places : Nat) (x : Float) : String :=
  if x.isNaN then "NaN"
  else
    let p := parts x
    let sign := if p.negative then "-" else ""
    if x.isInf then sign ++ "inf"
    else
      let ds := Decimal.digits (Decimal.toPlaces places p)
      let padded := List.replicate (places + 1 - ds.length) '0' ++ ds
      let whole := padded.take (padded.length - places)
      let fraction := padded.drop (padded.length - places)
      sign ++ String.ofList (if places = 0 then whole else whole ++ '.' :: fraction)

end Double

end Seismicity
