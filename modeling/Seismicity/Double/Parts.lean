/-!
# Doubles as Scaled Integers

A finite double is `± m · 2 ^ q` for a natural `m` below `2 ^ 53`. Rounding to
whole numbers, remainders and all decimal text are exact integer arithmetic
on `m` and `q`.

## Main definitions

* `Double.Parts`: A sign, a significand and an exponent of two.
* `Double.parts`: The parts of a finite double.
* `Double.ofParts`: The double with the given parts.
-/

namespace Seismicity

/-- Two to the power of `n`. -/
abbrev twoTo (n : Nat) : Nat := Nat.pow 2 n

/-- Ten to the power of `n`. -/
abbrev tenTo (n : Nat) : Nat := Nat.pow 10 n

namespace Double

/-- The number `± significand · 2 ^ exponent`. -/
structure Parts where
  negative : Bool
  significand : Nat
  exponent : Int

/-- The parts of a finite double: sign bit, eleven exponent bits, 52 bits of
    significand, with a hidden leading bit unless the exponent field is zero. -/
def parts (x : Float) : Parts :=
  let bits := x.toBits.toNat
  let field := bits / twoTo 52 % twoTo 11
  let fraction := bits % twoTo 52
  { negative := bits / twoTo 63 == 1
    significand := if field = 0 then fraction else fraction + twoTo 52
    exponent := if field = 0 then -1074 else Int.ofNat field - 1075 }

/-- `m · 2 ^ k` for an exponent of either sign, rounded towards zero. -/
def shift (m : Nat) (k : Int) : Nat :=
  match k with
  | .ofNat n => m * twoTo n
  | .negSucc n => m / twoTo (n + 1)

/-- The double with the given parts, for a significand and an exponent that
    some double has. -/
def ofParts (p : Parts) : Float :=
  let leading := p.exponent + Int.ofNat p.significand.log2
  let magnitude :=
    if p.significand = 0 then 0
    else if leading < -1022 then shift p.significand (p.exponent + 1074)
    else (leading + 1022).toNat * twoTo 52 + shift p.significand (52 - Int.ofNat p.significand.log2)
  Float.ofBits (UInt64.ofNat (if p.negative then magnitude + twoTo 63 else magnitude))

end Double

end Seismicity
