import Seismicity.Decimal.Basic

/-!
# Shortest Decimals

The shortest decimal number that reads back as a given double, and the texts
built from it. A decimal reads back as the double `m · 2 ^ q` when it lies
between the midpoints to the neighbouring doubles; the midpoints themselves
belong to the interval when `m` is even.

For each number of digits only the two neighbours on that decimal grid can be
nearest, so the first grid with a neighbour inside the interval gives the
shortest decimal.

## Main definitions

* `Decimal.shortest`: The shortest decimal of a positive finite double.
* `Double.text`: A double in a style, with its sign, and the three names of
  what is not finite.
-/

namespace Seismicity

namespace Decimal

/-- The decimals with `n` digits next to `value / unit`, if one of them lies in
    the interval; of two the nearer, of two equally near the one that `tie`
    says. All numbers are over one denominator, and `unit` is the grid. -/
def onGrid? (tie : Tie) (low value high unit : Nat) (inclusive : Bool) : Option Nat :=
  let inside (x : Nat) : Bool := if inclusive then low ≤ x && x ≤ high else low < x && x < high
  let d := value / unit
  let below := d * unit
  let above := (d + 1) * unit
  if inside below then
    if inside above then
      if value - below < above - value then some d
      else if above - value < value - below then some (d + 1)
      else
        match tie with
        | .even => some (d + d % 2)
        | .away => some (d + 1)
    else some d
  else if inside above then some (d + 1)
  else none

/-- Searches the grids of `digits`, `digits + 1`, … digits, at most `fuel` of
    them, for the number `m · 2 ^ q` with leading place `k`. -/
def searchGrids (tie : Tie) (m : Nat) (q k : Int) (digits : Nat) : Nat → Decimal
  | 0 => { coefficient := m, exponent := 0 }
  | fuel + 1 =>
    let exponent := k - Int.ofNat digits
    -- Four times the significand, so that the midpoints are whole; below a
    -- power of two the lower neighbour is only half as far.
    let lower := if m = twoTo 52 && -1074 < q then 1 else 2
    let (n, d) := quotient 1 (q - 2) (-exponent)
    match onGrid? tie ((4 * m - lower) * n) (4 * m * n) ((4 * m + 2) * n) d (m % 2 = 0) with
    | some c => { coefficient := c, exponent := exponent }
    | none => searchGrids tie m q k (digits + 1) fuel

/-- The shortest decimal that reads back as a positive finite double. Seventeen
    digits always do. -/
def shortest (tie : Tie) (p : Double.Parts) : Decimal :=
  trim (searchGrids tie p.significand p.exponent (leadingPlace p.significand p.exponent) 1 17)

end Decimal

namespace Double

/-- The text of a double: its shortest decimal in a style, after a sign. -/
def text (style : Decimal.Style) (x : Float) : String :=
  if x.isNaN then "NaN"
  else
    let p := parts x
    let sign := if p.negative then "-" else ""
    if x.isInf then sign ++ "inf"
    else if p.significand = 0 then
      sign ++ (if style.positional 1 then (if style.keepsPoint then "0.0" else "0") else "0e0")
    else sign ++ (Decimal.shortest style.tie p).write style

/-- Numbers inside messages: without an exponent, and without a point when
    they are whole. -/
def plain (x : Float) : String :=
  text
    { tie := .away, positional := fun _ => true, keepsPoint := false, signsExponent := false } x

/-- Large counts inside messages: one digit before the point, and an exponent. -/
def scientific (x : Float) : String :=
  text
    { tie := .away, positional := fun _ => false, keepsPoint := false, signsExponent := false } x

end Double

end Seismicity
