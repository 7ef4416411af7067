import Seismicity.Double.Parts

/-!
# Decimal Numbers

A positive decimal number `coefficient · 10 ^ exponent`, and how such a number
is written out. The style of the text (where positional notation ends,
whether a whole number keeps its point) is a value of its own, so that each
format states its choices in one place.

## Main definitions

* `Decimal`: A coefficient and an exponent of ten.
* `Decimal.Style`: The choices a number format makes.
* `Decimal.write`: The text of a decimal number in a style.
-/

namespace Seismicity

/-- The number `coefficient · 10 ^ exponent`. -/
structure Decimal where
  coefficient : Nat
  exponent : Int
  deriving Repr, DecidableEq

namespace Decimal

/-- The digits of a natural number, most significant first. -/
def digits (n : Nat) : List Char := Nat.toDigits 10 n

/-- The same number with the zeros at the end of its coefficient moved into
    the exponent; `fuel` bounds how many there can be. -/
def trimWith : Nat → Decimal → Decimal
  | 0, d => d
  | fuel + 1, d =>
    if d.coefficient % 10 = 0 && d.coefficient != 0 then
      trimWith fuel { coefficient := d.coefficient / 10, exponent := d.exponent + 1 }
    else d

/-- The same number with a coefficient that does not end in zero. -/
def trim (d : Decimal) : Decimal :=
  trimWith (digits d.coefficient).length d

/-- How many digits stand before the point in positional notation; zero or
    less for numbers below one tenth. -/
def place (d : Decimal) : Int :=
  Int.ofNat (digits d.coefficient).length + d.exponent

/-- Which of two equally near decimals is chosen: the one whose last digit is
    even, or the one further from zero. -/
inductive Tie where
  | even
  | away
  deriving DecidableEq, Repr

/-- The choices of a number format: which of two equally near decimals is
    chosen, which places are written positionally, whether a whole number ends
    in a point and a zero, and whether a positive exponent has a sign. -/
structure Style where
  tie : Tie
  positional : Int → Bool
  keepsPoint : Bool
  signsExponent : Bool

/-- A number without an exponent, however long it gets. -/
def positional (keepsPoint : Bool) (d : Decimal) : String :=
  let ds := digits d.coefficient
  match d.place with
  | .ofNat 0 => String.ofList ('0' :: '.' :: ds)
  | .ofNat n =>
    if ds.length ≤ n then
      String.ofList (ds ++ List.replicate (n - ds.length) '0')
        ++ (if keepsPoint then ".0" else "")
    else String.ofList (ds.take n ++ '.' :: ds.drop n)
  | .negSucc n => String.ofList ('0' :: '.' :: List.replicate (n + 1) '0' ++ ds)

/-- One digit before the point, the other digits after it, and the exponent,
    which has a sign even if it is positive when `signed`. -/
def scientific (signed : Bool) (d : Decimal) : String :=
  let mantissa :=
    match digits d.coefficient with
    | [] => []
    | [c] => [c]
    | c :: rest => c :: '.' :: rest
  let plus := if signed && 1 < d.place then "+" else ""
  String.ofList mantissa ++ "e" ++ plus ++ toString (d.place - 1)

/-- The text of a number in a style. -/
def write (style : Style) (d : Decimal) : String :=
  if style.positional d.place then positional style.keepsPoint d
  else scientific style.signsExponent d

/-- A quotient rounded to the nearest natural number; a half goes to the even
    neighbour. -/
def roundQuotient (numerator denominator : Nat) : Nat :=
  let q := numerator / denominator
  let twice := 2 * (numerator % denominator)
  if twice < denominator then q
  else if denominator < twice then q + 1
  else q + q % 2

/-- `m · 2 ^ q · 10 ^ k` as a quotient of naturals. -/
def quotient (m : Nat) (q k : Int) : Nat × Nat :=
  (m * twoTo q.toNat * tenTo k.toNat, twoTo (-q).toNat * tenTo (-k).toNat)

/-- The place of the leading digit of `m · 2 ^ q`: the least `k` for which the
    number is below `10 ^ k`. The logarithm of two gives it up to one or two. -/
def leadingPlace (m : Nat) (q : Int) : Int :=
  let estimate := (Int.ofNat m.log2 + q) * 30103 / 100000 - 1
  let below (k : Int) : Bool :=
    let (n, d) := quotient m q (-k)
    n < d
  if below estimate then estimate
  else if below (estimate + 1) then estimate + 1
  else if below (estimate + 2) then estimate + 2
  else estimate + 3

end Decimal

end Seismicity
