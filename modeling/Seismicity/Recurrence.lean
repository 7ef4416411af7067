import Seismicity.Scalar

/-!
# Recurrence of Magnitudes

Magnitude-frequency distributions: how often earthquakes of each magnitude
recur. Every kind of distribution is read as a list of bins, each with a
magnitude and an annual rate.

## Main definitions

* `Bin`: A magnitude and an annual rate.
* `Recurrence`: The three kinds of distribution.
* `Recurrence.fault?`: Why a distribution is refused.
* `Recurrence.bins`: The bins of a distribution.
-/

namespace Seismicity

/-- A magnitude and the annual rate at which it occurs. -/
structure Bin (α : Type) where
  magnitude : α
  rate : α
  deriving BEq, Repr

/-- A magnitude-frequency distribution. -/
inductive Recurrence (α : Type) where
  /-- Rates for magnitudes at even steps. -/
  | evenlyDiscretized (minMagnitude binWidth : α) (rates : List α)
  /-- A doubly truncated law in which the decimal logarithm of the rate of
      exceeding magnitude `M` is `a - b M`. -/
  | truncated (minMagnitude maxMagnitude binWidth a b : α)
  /-- Explicit magnitudes and rates. -/
  | arbitrary (magnitudes rates : List α)
  deriving BEq, Repr

/-- Why a magnitude-frequency distribution is refused. -/
inductive RecurrenceFault (α : Type) where
  | binWidth (value : α)
  | minMagnitude
  | parameters
  | range (minMagnitude maxMagnitude : α)
  | slope (b : α)
  | lengths (magnitudes rates : Nat)
  | magnitudes
  | order (later earlier : α)
  | rates
  deriving Repr

namespace Recurrence

variable {α : Type} [Scalar α]

/-- Rates are finite and not negative. -/
def ratesFault? (rates : List α) : Option (RecurrenceFault α) :=
  if rates.any fun rate => !Scalar.isFinite rate || rate < 0.0 then some .rates else none

/-- A bin width is finite and positive. -/
def binWidthFault? (binWidth : α) : Option (RecurrenceFault α) :=
  if !Scalar.isFinite binWidth || binWidth ≤ 0.0 then some (.binWidth binWidth) else none

/-- The first magnitude that is not above the one before it. -/
def orderFault? : List α → Option (RecurrenceFault α)
  | earlier :: later :: rest =>
    if later ≤ earlier then some (.order later earlier) else orderFault? (later :: rest)
  | _ => none

/-- Why a distribution is refused. -/
def fault? : Recurrence α → Option (RecurrenceFault α)
  | .evenlyDiscretized minMagnitude binWidth rates =>
    (binWidthFault? binWidth).or
      (if !Scalar.isFinite minMagnitude then some .minMagnitude else ratesFault? rates)
  | .truncated minMagnitude maxMagnitude binWidth a b =>
    (binWidthFault? binWidth).or
      (if !(Scalar.isFinite minMagnitude && Scalar.isFinite maxMagnitude && Scalar.isFinite a) then
        some .parameters
      else if maxMagnitude ≤ minMagnitude then some (.range minMagnitude maxMagnitude)
      else if !Scalar.isFinite b || b ≤ 0.0 then some (.slope b)
      else none)
  | .arbitrary magnitudes rates =>
    if magnitudes.length != rates.length then some (.lengths magnitudes.length rates.length)
    else if !magnitudes.all Scalar.isFinite then some .magnitudes
    else (orderFault? magnitudes).or (ratesFault? rates)

/-- The centres of the first and the last bin of a truncated law. The limits
    are rounded to the bin width and, unless they coincide, moved inwards by
    half a bin. -/
def centers (minMagnitude maxMagnitude binWidth : α) : α × α :=
  let low := Scalar.round (minMagnitude / binWidth) * binWidth
  let high := Scalar.round (maxMagnitude / binWidth) * binWidth
  if high == low then (low, high) else (low + binWidth / 2.0, high - binWidth / 2.0)

/-- The rate of a bin of a truncated law: the difference of the rates of
    exceeding its two edges. -/
def truncatedRate (binWidth a b magnitude : α) : α :=
  Scalar.tenPow (a - b * (magnitude - binWidth / 2.0))
    - Scalar.tenPow (a - b * (magnitude + binWidth / 2.0))

/-- All bins, in order, also those without any rate. -/
def bins : Recurrence α → List (Bin α)
  | .evenlyDiscretized minMagnitude binWidth rates =>
    rates.zipIdx.map fun (rate, i) =>
      { magnitude := minMagnitude + Scalar.ofNat i * binWidth, rate := rate }
  | .truncated minMagnitude maxMagnitude binWidth a b =>
    let (low, high) := centers minMagnitude maxMagnitude binWidth
    (List.range (Scalar.stepCount (Scalar.round ((high - low) / binWidth)))).map fun i =>
      let magnitude := low + Scalar.ofNat i * binWidth
      { magnitude := magnitude, rate := truncatedRate binWidth a b magnitude }
  | .arbitrary magnitudes rates =>
    (magnitudes.zip rates).map fun (magnitude, rate) => { magnitude := magnitude, rate := rate }

/-- The sum of all rates. -/
def totalRate (recurrence : Recurrence α) : α := Scalar.sum (recurrence.bins.map Bin.rate)

end Recurrence

end Seismicity
