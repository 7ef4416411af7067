import Seismicity.Decimal.Reading
import Seismicity.Json.Fault

/-!
# JSON Numerals

The numbers that JSON numerals stand for. Whole numbers of 64 bits are exact.
Every other numeral is a significand of at most 64 bits, scaled by one or more
powers of ten, each step rounded; digits for which the significand has no
room are dropped.

## Main definitions

* `Json.Numeral`: The parts of a numeral.
* `Json.Numeral.value`: The number it stands for.
-/

namespace Seismicity

namespace Json

/-- The parts of a numeral: a sign, the digits before and after the point, and
    the exponent with its sign, each as far as it is there. -/
structure Numeral where
  negative : Bool
  whole : List Char
  fraction : Option (List Char)
  exponent : Option (Bool × List Char)

namespace Numeral

/-- Takes digits into a significand for as long as it stays below `2 ^ 64`;
    gives the significand, the number of digits taken, and whether all were. -/
def accumulate (significand taken : Nat) : List Char → Nat × Nat × Bool
  | [] => (significand, taken, true)
  | c :: rest =>
    let next := 10 * significand + (c.toNat - '0'.toNat)
    if next < twoTo 64 then accumulate next (taken + 1) rest else (significand, taken, false)

/-- A power of ten that is within the range of doubles. -/
def powerOfTen (n : Nat) : Float := Float.ofScientific 1 false n

/-- Scales a double by a power of ten. Below the range of the powers it divides
    in steps, until nothing is left. -/
def scale (x : Float) (exponent : Int) : Except Fault Float :=
  if 0 ≤ exponent then
    if exponent ≤ 308 then
      let y := x * powerOfTen exponent.toNat
      if y.isInf then .error .range else .ok y
    else if x == 0.0 then .ok x
    else .error .range
  else if h : exponent < -308 then
    if x == 0.0 then .ok x else scale (x / powerOfTen 308) (exponent + 308)
  else .ok (x / powerOfTen (-exponent).toNat)
termination_by (-exponent).toNat
decreasing_by omega

/-- A double with a sign in front. -/
def signed (negative : Bool) (x : Float) : Float := if negative then -x else x

/-- The double that a significand and an exponent stand for. -/
def real (negative : Bool) (significand : Nat) (exponent : Int) : Except Fault Number :=
  (scale (Float.ofNat significand) exponent).map fun x => .real (signed negative x)

/-- The greatest exponent that is still computed with. -/
def exponentLimit : Nat := 2147483647

/-- A number kept within the limits of an exponent. -/
def limited (e : Int) : Int :=
  max (-Int.ofNat exponentLimit - 1) (min e (Int.ofNat exponentLimit))

/-- Applies a written exponent to a significand that already has one. -/
def withExponent (negative : Bool) (significand : Nat) (exponent : Int)
    (down : Bool) (ds : List Char) : Except Fault Number :=
  let e := Decimal.ofDigits ds
  if exponentLimit < e then
    if significand != 0 && !down then .error .range else .ok (.real (signed negative 0.0))
  else
    let shift := if down then -Int.ofNat e else Int.ofNat e
    real negative significand (limited (exponent + shift))

/-- The whole number that digits without point and exponent stand for. -/
def integer (negative : Bool) (n : Nat) : Number :=
  if !negative then .natural n
  else if n = 0 || twoTo 63 < n then .real (-Float.ofNat n)
  else .negative n

/-- The number that a numeral stands for. -/
def value (n : Numeral) : Except Fault Number :=
  let (significand, taken, fits) := accumulate 0 0 n.whole
  let dropped := Int.ofNat (n.whole.length - taken)
  match n.fraction, n.exponent with
  | none, none =>
    if fits then .ok (integer n.negative significand) else real n.negative significand dropped
  | none, some (down, ds) => withExponent n.negative significand dropped down ds
  | some fraction, exponent =>
    let (significand, places, _) := accumulate significand 0 fraction
    let scaled := dropped - Int.ofNat places
    match exponent with
    | none => real n.negative significand scaled
    | some (down, ds) => withExponent n.negative significand scaled down ds

end Numeral

end Json

end Seismicity
