import Seismicity.Decimal.Basic

/-!
# Reading Decimals

The double nearest to a decimal text, as command lines give numbers: an
optional sign, digits with an optional point on either side of them, and an
optional exponent; or, in letters of either case, an infinity or what is not
a number.

## Main definitions

* `Decimal.read?`: The double a text stands for, if it is a number.
* `Decimal.readCount?`: The count a text stands for, if it is one.
-/

namespace Seismicity

namespace Decimal

/-- The number that a list of digits stands for. -/
def ofDigits (ds : List Char) : Nat :=
  ds.foldl (fun n c => 10 * n + (c.toNat - '0'.toNat)) 0

/-- The double nearest to `coefficient · 10 ^ exponent`. Exponents far outside
    the range of the format need no power of ten. -/
def toDouble (d : Decimal) : Float :=
  if d.coefficient = 0 then 0.0
  else if 400 < d.place then 1.0 / 0.0
  else if d.place < -400 then 0.0
  else
    match d.exponent with
    | .ofNat e => Float.ofScientific d.coefficient false e
    | .negSucc e => Float.ofScientific d.coefficient true (e + 1)

/-- An exponent: nothing at all, or a letter, an optional sign and digits. -/
def readExponent? : List Char → Option Int
  | [] => some 0
  | c :: rest =>
    if c = 'e' || c = 'E' then
      let (negative, ds) :=
        match rest with
        | '-' :: ds => (true, ds)
        | '+' :: ds => (false, ds)
        | ds => (false, ds)
      if ds.isEmpty || !ds.all Char.isDigit then none
      else some (if negative then -Int.ofNat (ofDigits ds) else Int.ofNat (ofDigits ds))
    else none

/-- An unsigned decimal with at least one digit before the exponent. -/
def readUnsigned? (cs : List Char) : Option Decimal :=
  let whole := cs.takeWhile Char.isDigit
  let (fraction, rest) :=
    match cs.dropWhile Char.isDigit with
    | '.' :: after => (after.takeWhile Char.isDigit, after.dropWhile Char.isDigit)
    | rest => ([], rest)
  if whole.isEmpty && fraction.isEmpty then none
  else
    (readExponent? rest).map fun e =>
      { coefficient := ofDigits (whole ++ fraction), exponent := e - Int.ofNat fraction.length }

/-- A sign in front of a text, and the text after it. -/
def splitSign : List Char → Bool × List Char
  | '-' :: rest => (true, rest)
  | '+' :: rest => (false, rest)
  | cs => (false, cs)

/-- The double a text stands for. -/
def read? (text : String) : Option Float :=
  let (negative, cs) := splitSign text.toList
  let word := String.ofList (cs.map Char.toLower)
  let magnitude :=
    if word = "inf" || word = "infinity" then some (1.0 / 0.0)
    else if word = "nan" then some (0.0 / 0.0)
    else (readUnsigned? cs).map toDouble
  magnitude.map fun x => if negative then -x else x

/-- The count a text stands for: digits after an optional plus sign, for
    counts of 64 bits. -/
def readCount? (text : String) : Option Nat :=
  let ds :=
    match text.toList with
    | '+' :: rest => rest
    | cs => cs
  if ds.isEmpty || !ds.all Char.isDigit then none
  else
    let n := ofDigits ds
    if n < twoTo 64 then some n else none

end Decimal

end Seismicity
