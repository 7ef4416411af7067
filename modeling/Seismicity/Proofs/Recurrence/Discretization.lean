import Mathlib.Algebra.BigOperators.Group.List.Basic
import Mathlib.Analysis.SpecialFunctions.Pow.Real
import Mathlib.Tactic.Positivity
import Seismicity.Proofs.Binning.Edges
import Seismicity.Proofs.Recurrence.Ascending
import Seismicity.Proofs.Source.Productive

/-!
# Discretised Laws

In exact arithmetic, what the bins of a distribution are, and those of a truncated law in
particular.

A truncated law is given by a rate of exceeding each magnitude, which falls with the
magnitude. A bin has the difference of the rates at its two edges. Where one bin ends the
next begins, so the sum of the rates telescopes to the difference at the two outer edges
(`sum_laidBins`), and every shift of a bin by some magnitudes divides its rate by the same
factor, so the rates fall as well (`truncatedRate_strictAnti`). None of this depends on how
many bins there are or where the first one is. `laidBins` is what these facts are about.

The limits enter only through the two whole numbers of bin widths that they are rounded to.
If these differ, the first and the last centre are moved inwards by half a bin each, and
their distance is one width less than that of the limits; so counting both centres gives as
many bins as there are widths between the limits. If the two coincide, nothing is moved, and
the one bin reaches half a width beyond the limit on either side. The bins of a law that is
accepted are laid in one of these two ways (`bins_truncated`).

Where a magnitude falls among the bins is the question in which cell of an axis a coordinate
lies, and is answered there.

## Main definitions

* `Recurrence.exceeding`: The rate of exceeding a magnitude.
* `Recurrence.laidBins`: Bins laid one after the other.
* `Recurrence.Discretized`: A distribution has the bins of a truncated law.

## Theorems

* `truncatedRate_eq`, `truncatedRate_pos`, `truncatedRate_strictAnti`: The rate of a bin.
* `sum_laidBins`, `mem_laidBins_iff`, `exists_laidBins_iff`: Bins laid one after the other.
* `rounded_le`, `centers_eq`: The first and the last centre.
* `bins_truncated`: How the bins of a truncated law are laid.
* `rate_nonneg`: No bin of an accepted distribution has a negative rate.
* `bins_discretized`: The bins of accepted distributions.
* `bins_discretized_uneven`: Limits that are not multiples of the width.
-/

namespace Seismicity

namespace Recurrence

/-- The annual rate of exceeding a magnitude. -/
noncomputable def exceeding (a b magnitude : ℝ) : ℝ := Scalar.tenPow (a - b * magnitude)

theorem exceeding_eq (a b magnitude : ℝ) : exceeding a b magnitude = 10 ^ (a - b * magnitude) :=
  rfl

section Rates

variable (a : ℝ) {b : ℝ} (hb : 0 < b) {width : ℝ} (hwidth : 0 < width)

theorem truncatedRate_eq (width a b magnitude : ℝ) : truncatedRate width a b magnitude
    = exceeding a b (magnitude - width / 2) - exceeding a b (magnitude + width / 2) := by
  rw [← Exact.half_eq]
  rfl

/-- Adding to a magnitude divides its rate, whatever the magnitude. -/
theorem exceeding_add (a b magnitude d : ℝ) :
    exceeding a b (magnitude + d) = exceeding a b magnitude * 10 ^ (-(b * d)) := by
  have hexponent : a - b * (magnitude + d) = a - b * magnitude + -(b * d) := by ring
  rw [exceeding_eq, hexponent, Real.rpow_add (by norm_num)]
  rfl

include hb

/-- Greater magnitudes are exceeded less often. -/
theorem exceeding_strictAnti : StrictAnti (exceeding a b) := by
  intro m m' hlt
  refine Real.rpow_lt_rpow_of_exponent_lt (by norm_num) ?_
  exact sub_lt_sub_left (mul_lt_mul_of_pos_left hlt hb) a

include hwidth

theorem truncatedRate_pos (magnitude : ℝ) : 0 < truncatedRate width a b magnitude := by
  rw [truncatedRate_eq, sub_pos]
  exact exceeding_strictAnti a hb (by linarith)

/-- Bins at greater magnitudes have lower rates. -/
theorem truncatedRate_strictAnti : StrictAnti (truncatedRate width a b) := by
  intro m m' hlt
  have hshifted : truncatedRate width a b m'
      = truncatedRate width a b m * 10 ^ (-(b * (m' - m))) := by
    have hlower : m' - width / 2 = m - width / 2 + (m' - m) := by ring
    have hupper : m' + width / 2 = m + width / 2 + (m' - m) := by ring
    rw [truncatedRate_eq, truncatedRate_eq, hlower, hupper, exceeding_add, exceeding_add, sub_mul]
  rw [hshifted]
  refine mul_lt_of_lt_one_right (truncatedRate_pos a hb hwidth m) ?_
  refine Real.rpow_lt_one_of_one_lt_of_neg (by norm_num) ?_
  exact neg_neg_of_pos (mul_pos hb (sub_pos.mpr hlt))

end Rates

/-- Bins of a truncated law, laid one after the other from the first centre on. -/
noncomputable def laidBins (first width a b : ℝ) (n : ℕ) : List (Bin ℝ) :=
  (List.range n).map fun i : ℕ =>
    { magnitude := first + i * width, rate := truncatedRate width a b (first + i * width) }

section Laid

variable (first width a b : ℝ) (n : ℕ)

theorem length_laidBins : (laidBins first width a b n).length = n := by
  rw [laidBins, List.length_map, List.length_range]

theorem mem_laidBins_iff (bin : Bin ℝ) : bin ∈ laidBins first width a b n ↔
    ∃ i < n, bin = ⟨first + i * width, truncatedRate width a b (first + i * width)⟩ := by
  simp only [laidBins, List.mem_map, List.mem_range, eq_comm]

/-- The rates telescope: where one bin ends the next begins. -/
theorem sum_laidBins : ((laidBins first width a b n).map Bin.rate).sum
    = exceeding a b (first - width / 2) - exceeding a b (first - width / 2 + n * width) := by
  have hrate : ∀ i : ℕ, truncatedRate width a b (first + i * width)
      = exceeding a b (first - width / 2 + i * width)
        - exceeding a b (first - width / 2 + (i + 1 : ℕ) * width) := by
    intro i
    have hlower : first + i * width - width / 2 = first - width / 2 + i * width := by ring
    have hupper : first + i * width + width / 2 = first - width / 2 + (i + 1 : ℕ) * width := by
      push_cast
      ring
    rw [truncatedRate_eq, hlower, hupper]
  have hstart : first - width / 2 + (0 : ℕ) * width = first - width / 2 := by
    rw [Nat.cast_zero, zero_mul, add_zero]
  rw [laidBins, List.map_map]
  calc
    ((List.range n).map fun i : ℕ => truncatedRate width a b (first + i * width)).sum
        = ((List.range n).map fun i : ℕ => exceeding a b (first - width / 2 + i * width)
            - exceeding a b (first - width / 2 + (i + 1 : ℕ) * width)).sum :=
      congrArg List.sum (List.map_congr_left fun i _ => hrate i)
    _ = exceeding a b (first - width / 2 + (0 : ℕ) * width)
        - exceeding a b (first - width / 2 + n * width) :=
      List.sum_range_sub' n fun i : ℕ => exceeding a b (first - width / 2 + i * width)
    _ = exceeding a b (first - width / 2)
        - exceeding a b (first - width / 2 + n * width) := by rw [hstart]

variable {width b n} (hwidth : 0 < width) (hb : 0 < b) (hn : 0 < n)

include hwidth hb in
theorem laidBins_descending :
    (laidBins first width a b n).Pairwise fun p q => q.rate < p.rate := by
  rw [laidBins, List.pairwise_map]
  refine List.pairwise_lt_range.imp fun hlt => ?_
  exact truncatedRate_strictAnti a hb hwidth (stepped_lt first hwidth hlt)

include hwidth hn in
/-- The bins cover what lies between their outer edges, and nothing else. -/
theorem exists_laidBins_iff (m : ℝ) :
    (∃ bin ∈ laidBins first width a b n, |m - bin.magnitude| ≤ width / 2) ↔
      first - width / 2 ≤ m ∧ m ≤ first - width / 2 + n * width := by
  simp only [mem_laidBins_iff, abs_le]
  constructor
  · rintro ⟨_, ⟨i, hi, rfl⟩, hlow, hhigh⟩
    have hleft : 0 * width ≤ i * width := mul_le_mul_of_nonneg_right i.cast_nonneg hwidth.le
    have hright : ((i + 1 : ℕ) : ℝ) * width ≤ n * width :=
      mul_le_mul_of_nonneg_right (Nat.cast_le.mpr hi) hwidth.le
    push_cast at hright
    constructor <;> linarith
  · rintro ⟨hlow, hhigh⟩
    -- The bins are the cells of an axis that starts at the lower edge of the first.
    have hregular : ({ start := first - width / 2, width, cells := n } : Axis ℝ).Regular :=
      { one_le := hn
        width_nonneg := hwidth.le
        flat := fun hflat => absurd hflat hwidth.ne' }
    have hlower := @Axis.edge_le { start := first - width / 2, width, cells := n } m hlow
    have hupper := Axis.le_edge_succ hregular hhigh
    have hcell := Axis.cellIndex_lt _ hregular.one_le m
    rw [Axis.edge] at hlower hupper
    push_cast at hupper
    exact ⟨_, ⟨_, hcell, rfl⟩, by linarith, by linarith⟩

end Laid

/-- The steps up to a whole number, both ends counted. -/
theorem stepCount_round (n : ℤ) : Scalar.stepCount (Scalar.round (n : ℝ)) = n.toNat + 1 := by
  have hround : Scalar.round (n : ℝ) = n := Exact.roundAway_intCast n
  have hfloor : ⌊(n : ℝ)⌋₊ = n.toNat := by rw [← Int.floor_toNat, Int.floor_intCast]
  rw [hround, ← hfloor]
  rfl

section Limits

variable {low high width : ℝ} (hwidth : 0 < width) {k₁ k₂ : ℤ}
  (hlow : Scalar.round (low / width) = k₁) (hhigh : Scalar.round (high / width) = k₂)

include hwidth hlow hhigh

/-- Limits keep their order when they are rounded. -/
theorem rounded_le (hlt : low < high) : k₁ ≤ k₂ := by
  have hquotients := div_le_div_of_nonneg_right hlt.le hwidth.le
  have hrounded : Scalar.round (low / width) ≤ Scalar.round (high / width) :=
    Exact.roundAway_mono hquotients
  rw [hlow, hhigh] at hrounded
  exact Int.cast_le.mp hrounded

/-- The first and the last centre, by the whole numbers of widths that the limits are
    rounded to. -/
theorem centers_eq : centers low high width =
    if k₁ = k₂ then (k₁ * width, k₂ * width)
    else (k₁ * width + width / 2, k₂ * width - width / 2) := by
  have hsame : (k₂ : ℝ) * width = k₁ * width ↔ k₁ = k₂ := by
    rw [mul_left_inj' hwidth.ne', Int.cast_inj, eq_comm]
  simp only [centers, hlow, hhigh, Exact.beq_iff_eq, hsame, Exact.two_eq]

/-- How the bins of a truncated law are laid: around the limit, if the limits coincide, and
    else between them. -/
theorem bins_truncated (hle : k₁ ≤ k₂) (a b : ℝ) : (truncated low high width a b).bins =
    if k₁ = k₂ then laidBins (k₁ * width) width a b 1
    else laidBins (k₁ * width + width / 2) width a b (k₂ - k₁).toNat := by
  have hbins : (truncated low high width a b).bins
      = laidBins (centers low high width).1 width a b (Scalar.stepCount (Scalar.round
        (((centers low high width).2 - (centers low high width).1) / width))) := rfl
  rw [hbins, centers_eq hwidth hlow hhigh]
  by_cases heq : k₁ = k₂
  · have hnone : ((k₂ : ℝ) * width - k₁ * width) / width = (0 : ℤ) := by
      rw [heq, sub_self, zero_div, Int.cast_zero]
    rw [if_pos heq, if_pos heq, hnone, stepCount_round]
    rfl
  · -- From the first centre to the last it is one width less than between the limits.
    have hsteps : ((k₂ : ℝ) * width - width / 2 - (k₁ * width + width / 2)) / width
        = (k₂ - k₁ - 1 : ℤ) := by
      push_cast
      field_simp
      ring
    have hcount : (k₂ - k₁ - 1).toNat + 1 = (k₂ - k₁).toNat := by omega
    rw [if_neg heq, if_neg heq, hsteps, stepCount_round, hcount]

end Limits

/-- A distribution has the bins of a truncated law between `k₁` and `k₂` bin widths. -/
structure Discretized (r : Recurrence ℝ) (width a b : ℝ) (k₁ k₂ : ℤ) : Prop where
  count : (r.bins.length : ℤ) = max (k₂ - k₁) 1
  /-- Centres are one width apart. -/
  stepped : ∀ (i : ℕ) (h : i + 1 < r.bins.length),
    r.bins[i + 1].magnitude - r.bins[i].magnitude = width
  rate_pos : ∀ bin ∈ r.bins, 0 < bin.rate
  descending : r.bins.Pairwise fun p q => q.rate < p.rate
  /-- What the bins cover is what lies between the limits. -/
  covers : k₁ < k₂ → ∀ m : ℝ, (∃ bin ∈ r.bins, |m - bin.magnitude| ≤ width / 2) ↔
    k₁ * width ≤ m ∧ m ≤ k₂ * width
  totalRate : k₁ < k₂ →
    r.totalRate = 10 ^ (a - b * (k₁ * width)) - 10 ^ (a - b * (k₂ * width))
  /-- Limits that coincide are the centre of the only bin. -/
  single : k₁ = k₂ → r.bins = [⟨k₁ * width, truncatedRate width a b (k₁ * width)⟩]

/-- Bins that are laid one after the other between two limits discretise a law. -/
theorem discretized_of_laid {r : Recurrence ℝ} {width a b : ℝ} {k₁ k₂ : ℤ} (hwidth : 0 < width)
    (hb : 0 < b) (hle : k₁ ≤ k₂)
    (hbins : r.bins = if k₁ = k₂ then laidBins (k₁ * width) width a b 1
      else laidBins (k₁ * width + width / 2) width a b (k₂ - k₁).toNat) :
    r.Discretized width a b k₁ k₂ := by
  have hlaid : ∃ first n, r.bins = laidBins first width a b n ∧ (n : ℤ) = max (k₂ - k₁) 1 := by
    by_cases heq : k₁ = k₂
    · rw [if_pos heq] at hbins
      exact ⟨_, _, hbins, by omega⟩
    · rw [if_neg heq] at hbins
      exact ⟨_, _, hbins, by omega⟩
  -- Between different limits, the lower edge of the first bin and the upper one of the last.
  have hinner : k₁ < k₂ → r.bins = laidBins (k₁ * width + width / 2) width a b (k₂ - k₁).toNat ∧
      (k₁ * width + width / 2 - width / 2 : ℝ) = k₁ * width ∧
      (k₁ * width + (k₂ - k₁).toNat * width : ℝ) = k₂ * width := by
    intro hlt
    have hcount : (((k₂ - k₁).toNat : ℤ) : ℝ) = k₂ - k₁ := by
      rw [Int.toNat_of_nonneg (sub_nonneg.mpr hle), Int.cast_sub]
    rw [Int.cast_natCast] at hcount
    refine ⟨by rw [hbins, if_neg hlt.ne], by ring, ?_⟩
    rw [hcount]
    ring
  rcases hlaid with ⟨first, n, hfirst, hn⟩
  exact
    { count := by rw [hfirst, length_laidBins, hn]
      stepped := by
        intro i h
        simp only [hfirst, laidBins, List.getElem_map, List.getElem_range]
        push_cast
        ring
      rate_pos := by
        intro bin hbin
        rw [hfirst, mem_laidBins_iff] at hbin
        rcases hbin with ⟨i, _, rfl⟩
        exact truncatedRate_pos a hb hwidth _
      descending := by
        rw [hfirst]
        exact laidBins_descending first a hwidth hb
      covers := by
        intro hlt m
        rcases hinner hlt with ⟨hinside, hlower, hupper⟩
        have hpos : 0 < (k₂ - k₁).toNat := by omega
        rw [hinside, exists_laidBins_iff _ a hwidth hpos, hlower, hupper]
      totalRate := by
        intro hlt
        rcases hinner hlt with ⟨hinside, hlower, hupper⟩
        rw [totalRate, Exact.sum_eq, hinside, sum_laidBins, hlower, hupper]
        rfl
      single := by
        intro heq
        rw [hbins, if_pos heq, laidBins, List.range_one, List.map_singleton, Nat.cast_zero,
          zero_mul, add_zero] }

/-- What is checked of a truncated law. -/
theorem fault?_truncated_eq_none_iff (low high width a b : ℝ) :
    (truncated low high width a b).fault? = none ↔ 0 < width ∧ low < high ∧ 0 < b := by
  have hfinite : ∀ x : ℝ, Scalar.isFinite x = true := fun x => rfl
  simp only [fault?, binWidthFault?, Option.or_eq_none_iff, ite_some_eq_none_iff, hfinite,
    Bool.not_true, Bool.false_or, Bool.and_self, Bool.false_eq_true, decide_eq_true_eq, not_le,
    not_false_eq_true, true_and, and_true, Exact.zero_eq]

/-- In an accepted distribution no bin has a negative rate. -/
theorem rate_nonneg (r : Recurrence ℝ) (h : r.fault? = none) : ∀ bin ∈ r.bins, 0 ≤ bin.rate := by
  intro bin hbin
  by_cases hlaw : ∃ low high width a b, r = .truncated low high width a b
  · -- The rates of a law are not checked, but follow from the law.
    rcases hlaw with ⟨low, high, width, a, b, rfl⟩
    rcases (fault?_truncated_eq_none_iff _ _ _ _ _).mp h with ⟨hwidth, _, hb⟩
    rcases List.mem_map.mp hbin with ⟨i, _, rfl⟩
    exact (truncatedRate_pos a hb hwidth _).le
  · have hwritten : ∀ low high width a b, r ≠ .truncated low high width a b :=
      fun low high width a b heq => hlaw ⟨low, high, width, a, b, heq⟩
    have hrate := (r.rate_usable h hwritten bin hbin).2
    rw [Exact.zero_eq] at hrate
    exact not_lt.mp hrate

/-- The bins of an accepted distribution.

    They are in strictly ascending order of magnitude, and none has a negative rate. The
    limits of a truncated law are rounded to whole numbers `k₁ ≤ k₂` of bin widths. There are
    `k₂ - k₁` bins, but never none, with centres one width apart and with positive rates that
    fall from bin to bin. If the two numbers differ, the bins cover what lies between them
    and nothing else, and their rates sum to the difference of the rates of exceeding either
    limit; if they coincide, there is the one bin around the limit. -/
theorem bins_discretized (r : Recurrence ℝ) (h : r.fault? = none) :
    (r.bins.Pairwise fun p q => p.magnitude < q.magnitude) ∧
    (∀ bin ∈ r.bins, 0 ≤ bin.rate) ∧
    ∀ low high width a b, r = .truncated low high width a b → ∃ k₁ k₂ : ℤ,
      Exact.roundAway (low / width) = k₁ ∧ Exact.roundAway (high / width) = k₂ ∧ k₁ ≤ k₂ ∧
      r.Discretized width a b k₁ k₂ := by
  refine ⟨r.bins_ascending h, r.rate_nonneg h, ?_⟩
  rintro low high width a b rfl
  rcases (fault?_truncated_eq_none_iff _ _ _ _ _).mp h with ⟨hwidth, hlt, hb⟩
  rcases Exact.exists_roundAway_eq (low / width) with ⟨k₁, hlow⟩
  rcases Exact.exists_roundAway_eq (high / width) with ⟨k₂, hhigh⟩
  have hle := rounded_le hwidth hlow hhigh hlt
  exact ⟨k₁, k₂, hlow, hhigh, hle,
    discretized_of_laid hwidth hb hle (bins_truncated hwidth hlow hhigh hle a b)⟩

/-- A law between limits that are no multiples of the width of its bins; the upper one is
    half way between two of them. -/
noncomputable def uneven : Recurrence ℝ := .truncated 4.75 6.5 1.0 3.0 1.0

/-- The limits are rounded to five and seven widths, so there are two bins. -/
theorem bins_discretized_uneven :
    uneven.fault? = none ∧ (uneven.bins.length : ℤ) = 2 ∧
      uneven.totalRate = 10 ^ (-2 : ℝ) - 10 ^ (-4 : ℝ) := by
  have haccepted : uneven.fault? = none := by
    rw [uneven, fault?_truncated_eq_none_iff]
    norm_num
  rcases (bins_discretized uneven haccepted).2.2 _ _ _ _ _ rfl with
    ⟨k₁, k₂, hlow, hhigh, _, hlaw⟩
  have hfive : k₁ = 5 := by
    have hfloor : ⌊(4.75 : ℝ) / 1.0 + 1 / 2⌋ = 5 := by
      rw [Int.floor_eq_iff]
      norm_num
    rw [Exact.roundAway, if_pos (by norm_num), hfloor] at hlow
    exact_mod_cast hlow.symm
  have hseven : k₂ = 7 := by
    have hfloor : ⌊(6.5 : ℝ) / 1.0 + 1 / 2⌋ = 7 := by
      rw [Int.floor_eq_iff]
      norm_num
    rw [Exact.roundAway, if_pos (by norm_num), hfloor] at hhigh
    exact_mod_cast hhigh.symm
  rw [hfive, hseven] at hlaw
  refine ⟨haccepted, hlaw.count, ?_⟩
  rw [hlaw.totalRate (by omega)]
  norm_num

end Recurrence

end Seismicity
