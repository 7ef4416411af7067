import Seismicity.Proofs.Double.Signs
import Seismicity.Proofs.Exchange.Contents
import Seismicity.Proofs.Source.Acceptance
import Seismicity.Proofs.Source.Enumeration

/-!
# Productive Sources

Whether an accepted source has anything to offer, in the arithmetic of doubles.

A description is refused if every rate is at most zero, and the bins of a source are
those whose rate is above zero. For numbers these are opposites. For what is not a
number they are not: it passes the check, and then makes no bin. Rates that are
written down are checked to be finite, but the rates of a truncated law are computed,
and where both edges of a bin are exceeded more than `10 ^ 308` times a year its rate
is the difference of two infinities (`truncatedRate_isNaN`). A source all of whose
rates are like this is accepted with no bins at all (`truncated_undefined`).

Apart from such laws, and from distributions without entries, every accepted source
is productive (`productive_iff`).

## Main definitions

* `PointSource.Productive`: A source has bins, ruptures and a positive rate.
* `Recurrence.Undefined`: A distribution passes for one that has rates, and has none.

## Theorems

* `greatestMagnitude_mem`: The greatest magnitude is that of some bin.
* `Recurrence.rate_usable`: Rates that are written down are finite.
* `Recurrence.truncatedRate_isNaN`, `Recurrence.truncated_undefined`: Computed rates
  need not be numbers.
* `PointSource.bins_ne_nil_iff`: When an accepted source has bins.
* `PointSource.totalRate_pos`: With bins, the total rate is positive.
* `PointSource.productive_iff`: Which accepted sources are productive.
* `PointSource.unproductive_overflowing`: An accepted source without bins.
-/

namespace Seismicity

section Scalars

variable {α : Type} [Scalar α]

/-- The greatest magnitude of some bins is that of one of them. -/
theorem greatestMagnitude_mem (bins : List (Bin α)) (h : bins ≠ []) :
    ∃ bin ∈ bins, greatestMagnitude bins = bin.magnitude := by
  have hkept : ∀ (ms : List α) (best : α),
      ms.foldl (fun best m => if Scalar.sortsBefore best m then m else best) best
        ∈ best :: ms := by
    intro ms
    induction ms with
    | nil => exact fun best => List.mem_cons_self
    | cons m rest ih =>
        intro best
        rw [List.foldl_cons]
        cases Scalar.sortsBefore best m with
        | true => exact List.mem_cons_of_mem best (ih m)
        | false =>
            rcases List.mem_cons.mp (ih best) with hbest | hrest
            · rw [if_neg Bool.false_ne_true, hbest]
              exact List.mem_cons_self
            · exact List.mem_cons_of_mem best (List.mem_cons_of_mem m hrest)
  cases bins with
  | nil => exact absurd rfl h
  | cons first rest =>
      have hmem := hkept (rest.map Bin.magnitude) first.magnitude
      rw [← List.map_cons] at hmem
      rcases List.mem_map.mp hmem with ⟨bin, hbin, hequal⟩
      exact ⟨bin, hbin, hequal.symm⟩

/-- A source has something to offer: bins, at least one rupture of either kind, and a
    positive rate; and its radius is computed at the magnitude of one of its bins. -/
structure PointSource.Productive (s : PointSource α) : Prop where
  bins : s.bins ≠ []
  count : 1 ≤ s.countRuptures
  ruptures : ∀ asPoint shift,
    s.ruptures { magnitude := none, asPoint := asPoint, shift := shift } ≠ []
  totalRate : 0.0 < s.totalRate
  radius : ∃ bin ∈ s.bins, greatestMagnitude s.bins = bin.magnitude ∧
    s.maxRadius = s.radiusAt bin.magnitude

namespace Recurrence

/-- Rates that are written down are checked: they are finite and not negative. -/
theorem rate_usable (r : Recurrence α) (h : r.fault? = none)
    (hwritten : ∀ low high width a b, r ≠ .truncated low high width a b) (bin : Bin α)
    (hbin : bin ∈ r.bins) : Scalar.isFinite bin.rate = true ∧ ¬ bin.rate < 0.0 := by
  have hchecked : ∀ rates : List α, ratesFault? rates = none → ∀ rate ∈ rates,
      Scalar.isFinite rate = true ∧ ¬ rate < 0.0 := by
    intro rates hrates rate hrate
    simp only [ratesFault?, ite_some_eq_none_iff, List.any_eq_true, not_exists, not_and,
      Bool.or_eq_true, Bool.not_eq_true', decide_eq_true_eq, not_or, Bool.not_eq_false,
      and_true] at hrates
    exact hrates rate hrate
  cases r with
  | evenlyDiscretized low width rates =>
      simp only [fault?, Option.or_eq_none_iff, ite_some_eq_none_iff] at h
      simp only [bins, List.mem_map, Prod.exists] at hbin
      rcases hbin with ⟨rate, i, hmem, rfl⟩
      exact hchecked rates h.2.2 rate (List.fst_mem_of_mem_zipIdx hmem)
  | truncated low high width a b => exact absurd rfl (hwritten low high width a b)
  | arbitrary magnitudes rates =>
      simp only [fault?, ite_some_eq_none_iff, Option.or_eq_none_iff] at h
      simp only [bins, List.mem_map, Prod.exists] at hbin
      rcases hbin with ⟨magnitude, rate, hmem, rfl⟩
      exact hchecked rates h.2.2.2 rate (List.of_mem_zip hmem).2

end Recurrence

end Scalars

namespace Recurrence

/-- A distribution passes for one that has rates, since not all of them are at most
    zero; but none is positive, and what is left is not a number. -/
structure Undefined (r : Recurrence Float) : Prop where
  nan : ∃ bin ∈ r.bins, bin.rate.isNaN = true
  noRate : ∀ bin ∈ r.bins, ¬ 0.0 < bin.rate

/-- Where both edges of a bin are exceeded too often for a double, the rate of the bin
    is not a number. -/
theorem truncatedRate_isNaN (width a b magnitude : Float)
    (hlower : 309.0 ≤ a - b * (magnitude - width / 2.0))
    (hupper : 309.0 ≤ a - b * (magnitude + width / 2.0)) :
    (truncatedRate width a b magnitude).isNaN = true := by
  have hpower : ∀ x : Float, 309.0 ≤ x → Scalar.tenPow x = Double.infinity :=
    fun x hx => if_pos hx
  rw [truncatedRate, hpower _ hlower, hpower _ hupper]
  decide

/-- A truncated law of which both edges of every bin are exceeded too often. -/
theorem truncated_undefined (low high width a b : Float)
    (hsome : (truncated low high width a b).bins ≠ [])
    (hedges : ∀ bin ∈ (truncated low high width a b).bins,
      309.0 ≤ a - b * (bin.magnitude - width / 2.0) ∧
        309.0 ≤ a - b * (bin.magnitude + width / 2.0)) :
    (truncated low high width a b).Undefined := by
  have hnan : ∀ bin ∈ (truncated low high width a b).bins, bin.rate.isNaN = true := by
    intro bin hbin
    have hrate : bin.rate = truncatedRate width a b bin.magnitude := by
      rcases List.mem_map.mp hbin with ⟨i, _, rfl⟩
      rfl
    rw [hrate]
    exact truncatedRate_isNaN width a b bin.magnitude (hedges bin hbin).1 (hedges bin hbin).2
  rcases List.exists_mem_of_ne_nil _ hsome with ⟨bin, hbin⟩
  exact
    { nan := ⟨bin, hbin, hnan bin hbin⟩
      noRate := fun bin hbin => Double.not_zero_lt_of_isNaN bin.rate (hnan bin hbin) }

/-- The only such distributions among the accepted ones are truncated laws. -/
theorem Undefined.truncated {r : Recurrence Float} (h : r.Undefined) (hfault : r.fault? = none) :
    ∃ low high width a b, r = .truncated low high width a b := by
  by_contra hwritten
  simp only [not_exists] at hwritten
  rcases h.nan with ⟨bin, hbin, hnan⟩
  have hfinite := (r.rate_usable hfault hwritten bin hbin).1
  exact absurd hnan (Bool.eq_false_iff.mp (Double.isNaN_of_isFinite bin.rate hfinite))

end Recurrence

namespace PointSource

variable (s : PointSource Float)

/-- An accepted source has bins unless its distribution is undefined. -/
theorem bins_ne_nil_iff (h : s.toPointSourceSpec.Valid) :
    s.bins ≠ [] ↔ ¬ s.recurrence.Undefined := by
  have hbins : s.bins ≠ [] ↔ ∃ bin ∈ s.recurrence.bins, 0.0 < bin.rate := by
    simp only [bins, ne_eq, List.filter_eq_nil_iff, decide_eq_true_eq, not_forall, exists_prop,
      not_not]
  rw [hbins]
  constructor
  · rintro ⟨bin, hbin, hpos⟩ hundefined
    exact hundefined.noRate bin hbin hpos
  · intro hdefined
    by_contra hnone
    simp only [not_exists, not_and] at hnone
    -- The check has found a rate that is not at most zero, which need not be above it.
    rcases h.rate with ⟨bin, hbin, hrate⟩
    rcases (Double.not_le_zero_iff bin.rate).mp hrate with hpos | hnan
    · exact hnone bin hbin hpos
    · exact hdefined ⟨⟨bin, hbin, hnan⟩, hnone⟩

/-- With bins, the total rate of a source is positive. -/
theorem totalRate_pos (h : s.bins ≠ []) : 0.0 < s.totalRate := by
  refine Double.sum_pos (s.bins.map Bin.rate) (mt List.map_eq_nil_iff.mp h) fun rate hrate => ?_
  rcases List.mem_map.mp hrate with ⟨bin, hbin, rfl⟩
  exact of_decide_eq_true (List.mem_filter.mp hbin).2

/-- A source at the centre of the coordinates, on one plane and at one depth. -/
def central (recurrence : Recurrence Float) : PointSourceSpec Float where
  id := "central"
  name := "central"
  region := "Active Shallow Crust"
  recurrence := recurrence
  meshSpacing := 1.0
  scaling := .peer
  aspectRatio := 1.0
  occurrence := none
  upper := 0.0
  lower := 10.0
  location := { longitude := 0.0, latitude := 0.0, depth := 0.0 }
  planes := { entries := [(1.0, { strike := 0.0, dip := 90.0, rake := 0.0 })] }
  depths := { entries := [(1.0, 5.0)] }

theorem central_valid (recurrence : Recurrence Float) (hfault : recurrence.fault? = none)
    (hrate : ∃ bin ∈ recurrence.bins, ¬ bin.rate ≤ 0.0) : (central recurrence).Valid where
  layer := show (0.0 : Float) < 10.0 by decide
  depths := show ∀ entry ∈ [((1.0 : Float), (5.0 : Float))], 0.0 ≤ entry.2 ∧ entry.2 ≤ 10.0 by
    decide
  elevation := show (-8.848 : Float) < 0.0 by decide
  longitude := show (0.0 : Float).isFinite = true by decide
  latitude := show (0.0 : Float).isFinite = true by decide
  planes := by
    simp only [central, List.forall_mem_cons, List.not_mem_nil, false_imp_iff, implies_true,
      and_true, NodalPlane.fault?_eq_none_iff]
    decide
  aspectRatio := show (0.0 : Float) < 1.0 by decide
  finiteRatio := show (1.0 : Float).isFinite = true by decide
  meshSpacing := show (0.0 : Float) < 1.0 by decide
  recurrence := hfault
  rate := hrate

/-- Earthquakes of magnitude 5, once a year. -/
def yearly : Recurrence Float := .arbitrary [5.0] [1.0]

theorem yearly_valid : (central yearly).Valid :=
  central_valid yearly (Option.isNone_iff_eq_none.mp (by decide))
    ⟨{ magnitude := 5.0, rate := 1.0 }, List.mem_cons_self, by decide⟩

/-- A truncated law of one bin, both edges of which are exceeded more than `10 ^ 308`
    times a year. -/
def overflowing : Recurrence Float := .truncated 5.0 6.0 1.0 400.0 1.0

theorem overflowing_undefined : overflowing.Undefined := by
  refine Recurrence.truncated_undefined 5.0 6.0 1.0 400.0 1.0
    (List.isEmpty_eq_false_iff.mp (by decide +kernel)) fun bin hbin => ?_
  have hall : overflowing.bins.all fun bin =>
      309.0 ≤ 400.0 - 1.0 * (bin.magnitude - 1.0 / 2.0) &&
        309.0 ≤ 400.0 - 1.0 * (bin.magnitude + 1.0 / 2.0) := by
    decide +kernel
  simpa using List.all_eq_true.mp hall bin hbin

theorem overflowing_valid : (central overflowing).Valid := by
  rcases overflowing_undefined.nan with ⟨bin, hbin, hnan⟩
  exact central_valid overflowing (Option.isNone_iff_eq_none.mp (by decide +kernel))
    ⟨bin, hbin, (Double.not_le_zero_iff bin.rate).mpr (.inr hnan)⟩

/-- Which accepted sources have something to offer.

    In the arithmetic of doubles, a source made from an accepted description is
    productive exactly if its distribution is not undefined and there are planes and
    depths. Only truncated laws are ever undefined. -/
theorem productive_iff (spec : PointSourceSpec Float) (h : ofSpec spec = .ok s) :
    (s.Productive ↔
      ¬ s.recurrence.Undefined ∧ s.planes.entries ≠ [] ∧ s.depths.entries ≠ []) ∧
    (s.recurrence.Undefined →
      ∃ low high width a b, s.recurrence = .truncated low high width a b) := by
  rcases ofSpec_ok spec s h with ⟨hspec, hmade⟩
  have hvalid : s.toPointSourceSpec.Valid := by
    rw [hmade]
    exact hspec.atDepth 0.0
  -- A source keeps no radius when it is made, so that it is computed when asked for.
  have hradius : s.radius = none := by
    rw [ofSpec, spec.fault?_eq_none_iff.mpr hspec, Except.ok.injEq] at h
    rw [← h]
  refine ⟨⟨fun hproductive => ?_, fun hconditions => ?_⟩,
    fun hundefined => hundefined.truncated hvalid.recurrence⟩
  · have hruptures := hproductive.ruptures false false
    rw [ruptures_ne_nil_iff _ _ rfl, s.bins_ne_nil_iff hvalid] at hruptures
    exact ⟨hruptures.2.2, hruptures.1, hruptures.2.1⟩
  · rcases hconditions with ⟨hdefined, hplanes, hdepths⟩
    have hbins := (s.bins_ne_nil_iff hvalid).mpr hdefined
    rcases greatestMagnitude_mem s.bins hbins with ⟨bin, hbin, hgreatest⟩
    exact
      { bins := hbins
        count := Nat.mul_pos (List.length_pos_iff.mpr hbins)
          (Nat.mul_pos (List.length_pos_iff.mpr hplanes) (List.length_pos_iff.mpr hdepths))
        ruptures := fun asPoint shift =>
          (ruptures_ne_nil_iff _ _ rfl).mpr ⟨hplanes, hdepths, hbins⟩
        totalRate := s.totalRate_pos hbins
        radius := ⟨bin, hbin, hgreatest, by rw [maxRadius, hradius, ← hgreatest]; rfl⟩ }

/-- The source that the earthquakes of magnitude 5 make is productive. -/
theorem productive_iff_yearly :
    ∃ s, ofSpec (central yearly) = .ok s ∧ s.Productive := by
  rcases exists_ofSpec _ yearly_valid with ⟨s, hs⟩
  have hspec := (ofSpec_ok _ s hs).2
  rcases productive_iff s (central yearly) hs with ⟨hiff, htruncated⟩
  refine ⟨s, hs, hiff.mpr ⟨fun hundefined => ?_, ?_, ?_⟩⟩
  · rcases htruncated hundefined with ⟨low, high, width, a, b, hlaw⟩
    rw [hspec] at hlaw
    exact absurd hlaw (by simp only [central, yearly, reduceCtorEq, not_false_eq_true])
  · rw [hspec]
    exact List.cons_ne_nil _ _
  · rw [hspec]
    exact List.cons_ne_nil _ _

/-- A source all of whose numbers are finite, and which is accepted, has no bins, no
    ruptures and no rate. -/
theorem unproductive_overflowing :
    (∀ x ∈ (central overflowing).doubles, x.isFinite = true) ∧
    ∃ s, ofSpec (central overflowing) = .ok s ∧ s.bins = [] ∧ s.countRuptures = 0 ∧
      ¬ 0.0 < s.totalRate := by
  rcases exists_ofSpec _ overflowing_valid with ⟨s, hs⟩
  have hspec := (ofSpec_ok _ s hs).2
  have hvalid : s.toPointSourceSpec.Valid := by
    rw [hspec]
    exact overflowing_valid.atDepth 0.0
  have hundefined : s.recurrence.Undefined := by
    rw [hspec]
    exact overflowing_undefined
  have hbins : s.bins = [] := by
    by_contra hsome
    exact (s.bins_ne_nil_iff hvalid).mp hsome hundefined
  refine ⟨List.all_eq_true.mp (by decide), s, hs, hbins, ?_, ?_⟩
  · rw [countRuptures, hbins, List.length_nil, Nat.zero_mul]
  · rw [totalRate, hbins]
    decide

end PointSource

end Seismicity
