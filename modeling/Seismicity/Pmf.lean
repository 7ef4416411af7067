import Seismicity.Scalar

/-!
# Probability Mass Functions

Finite lists of weighted values. The weights of a probability mass function
sum to one; a list whose weights do not is accepted all the same, and means
taken over it divide by the sum.

## Main definitions

* `Pmf`: Weighted values.
* `Pmf.ofEntries`: Weighted values, with the weights checked.
* `Pmf.average`: The weighted mean of a function of the values.
* `Pmf.unusualTotal?`: The sum of the weights, when it is not one.
-/

namespace Seismicity

/-- An ordered list of weights and values. -/
structure Pmf (α β : Type) where
  entries : List (α × β)
  deriving BEq, Repr

/-- Why weighted values are refused. -/
inductive PmfFault (α : Type) where
  | noEntries
  | weight (value : α)
  deriving Repr

namespace Pmf

variable {α β : Type} [Scalar α]

/-- How far from one the sum of the weights may be without remark. -/
def totalTolerance : α := 0.000001

/-- A usable weight is finite and not negative. -/
def usable (weight : α) : Bool := Scalar.isFinite weight && !(decide (weight < 0.0))

/-- The sum of the weights. -/
def total (entries : List (α × β)) : α := Scalar.sum (entries.map Prod.fst)

/-- Why a list of weighted values is refused: there are none, or the first
    weight that is not usable. -/
def fault? (entries : List (α × β)) : Option (PmfFault α) :=
  if entries.isEmpty then some .noEntries
  else (entries.find? fun entry => !usable entry.1).map fun entry => .weight entry.1

/-- A probability mass function with at least one value and usable weights. -/
def ofEntries (entries : List (α × β)) : Except (PmfFault α) (Pmf α β) :=
  match fault? entries with
  | some fault => .error fault
  | none => .ok { entries := entries }

/-- The sum of the weights of an accepted list, when it differs from one. -/
def unusualTotal? (entries : List (α × β)) : Option α :=
  if (fault? entries).isSome then none
  else if totalTolerance < Scalar.abs (total entries - 1.0) then some (total entries)
  else none

/-- The weights, in order. -/
def weights (p : Pmf α β) : List α := p.entries.map Prod.fst

/-- The number of values. -/
def size (p : Pmf α β) : Nat := p.entries.length

/-- The weighted mean of `f` over the values; the plain mean when no weight is
    positive. -/
def average (p : Pmf α β) (f : β → α) : α :=
  if 0.0 < total p.entries then
    Scalar.sum (p.entries.map fun entry => entry.1 * f entry.2) / total p.entries
  else Scalar.sum (p.entries.map fun entry => f entry.2) / Scalar.ofNat p.size

end Pmf

end Seismicity
