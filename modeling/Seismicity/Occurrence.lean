import Seismicity.Scalar

/-!
# Temporal Occurrence

## Main definitions

* `Poisson`: Occurrence in time as a Poisson process.
* `Poisson.probability`: The probability of at least one occurrence.
-/

namespace Seismicity

/-- Occurrence in time as a Poisson process, over a span of years. -/
structure Poisson (α : Type) where
  timeSpan : α
  deriving BEq, Repr

/-- The probability of at least one occurrence in the time span, for an annual
    rate. -/
def Poisson.probability {α : Type} [Scalar α] (tom : Poisson α) (rate : α) : α :=
  -Scalar.expMinusOne (-rate * tom.timeSpan)

end Seismicity
