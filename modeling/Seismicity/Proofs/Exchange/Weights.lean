import Seismicity.Exchange.Geometry
import Seismicity.Proofs.Json.Yields
import Seismicity.Proofs.Source.Averages
import Seismicity.Proofs.Source.Productive

/-!
# Weights From Texts

What is known of the weights of a probability mass function, by the way in which it was
made.

A list of entries is checked: there has to be one, and all weights have to be finite and
not negative. All that is done with a probability mass function rests on this. Means
divide by the number of values, and rates are multiplied by the weights. A text is not
checked. That its weights are finite comes from how numbers are read
(`Exchange.yields_pmf`); but there may be none, and they may be negative.

## Main definitions

* `Pmf.WellFormed`: What the check asks for.
* `Pmf.Made`: The two ways of making a probability mass function.

## Theorems

* `Pmf.wellFormed_iff`: What is well-formed passes the check.
* `PointSource.rate_nonneg`: Well-formed distributions give rates that are not negative.
* `Pmf.Made.wellFormed_iff`: When a probability mass function is well-formed.
* `Pmf.made_wellFormed`: What follows for sources and means.
* `Pmf.made_empty`: Texts without entries and with negative weights.
-/

namespace Seismicity

namespace Pmf

section WellFormed

variable {α β : Type} [Scalar α]

/-- There is an entry, and all weights are finite and not negative. -/
structure WellFormed (p : Pmf α β) : Prop where
  nonempty : p.entries ≠ []
  finite : ∀ entry ∈ p.entries, Scalar.isFinite entry.1 = true
  nonneg : ∀ entry ∈ p.entries, ¬ entry.1 < 0.0

/-- What is well-formed is what passes the check. -/
theorem wellFormed_iff (p : Pmf α β) : p.WellFormed ↔ ofEntries p.entries = .ok p := by
  simp only [ofEntries_eq_ok_iff, true_and, usable, Bool.and_eq_true, Bool.not_eq_true',
    decide_eq_false_iff_not, forall_and]
  exact ⟨fun h => ⟨h.nonempty, h.finite, h.nonneg⟩, fun h => ⟨h.1, h.2.1, h.2.2⟩⟩

theorem wellFormed_of_ofEntries (entries : List (α × β)) (p : Pmf α β)
    (h : ofEntries entries = .ok p) : p.WellFormed := by
  have hentries := ((ofEntries_eq_ok_iff entries p).mp h).1
  exact p.wellFormed_iff.mpr (hentries.symm ▸ h)

end WellFormed

/-- A probability mass function is made from a list that is checked, or read from a
    text. -/
inductive Made {β : Type} (values : Json.Codec β) : Pmf Float β → Prop where
  | checked {entries : List (Float × β)} {p : Pmf Float β} (h : ofEntries entries = .ok p) :
      Made values p
  | read {text : String} {p : Pmf Float β} (h : (Exchange.pmf values).parse text = .ok p) :
      Made values p

end Pmf

/-- The weights of every text are finite. -/
theorem Exchange.yields_pmf {β : Type} (values : Json.Codec β) :
    (Exchange.pmf values).Yields fun p => ∀ entry ∈ p.entries, entry.1.isFinite = true := by
  have hentries := (Json.Codec.yields_real.pair values).list
  exact .record ((Json.Fields.yields_field hentries "data").via _ _ fun _ h => h) "Pmf"

namespace Pmf

theorem Made.finite {β : Type} {values : Json.Codec β} {p : Pmf Float β} (h : p.Made values) :
    ∀ entry ∈ p.entries, entry.1.isFinite = true := by
  cases h with
  | checked h => exact (wellFormed_of_ofEntries _ p h).finite
  | read h => exact (Exchange.yields_pmf values).of_parse _ p h

theorem Made.wellFormed_iff {β : Type} {values : Json.Codec β} {p : Pmf Float β}
    (h : p.Made values) :
    p.WellFormed ↔ p.entries ≠ [] ∧ ∀ entry ∈ p.entries, ¬ entry.1 < 0.0 :=
  ⟨fun hp => ⟨hp.nonempty, hp.nonneg⟩, fun hp => ⟨hp.1, h.finite, hp.2⟩⟩

end Pmf

namespace PointSource

/-- With well-formed distributions no rate is negative. A rate is a number, too, unless
    the rates themselves overflow. -/
theorem rate_nonneg (s : PointSource Float) (hplanes : s.planes.WellFormed)
    (hdepths : s.depths.WellFormed) (options : RuptureOptions Float) :
    ∀ r ∈ s.ruptures options, ¬ r.rate < 0.0 ∧
      ((∀ bin ∈ s.bins, ∀ plane ∈ s.planes.entries, (bin.rate * plane.1).isFinite = true) →
        0.0 ≤ r.rate) := by
  intro r hr
  obtain ⟨plane, hplane, depth, hdepth, bin, hbin, rfl⟩ := (s.mem_ruptures_iff options r).mp hr
  rw [RuptureSetting.rupture_rate]
  have hbin := s.mem_bins_of_selected options bin hbin
  have hpositive : 0.0 < bin.rate := of_decide_eq_true (List.mem_filter.mp hbin).2
  have hrate : ¬ bin.rate < 0.0 := by
    rw [Double.zero_lt_iff] at hpositive
    rw [Double.lt_zero_iff, hpositive]
    decide
  -- An infinite rate times a weight of zero is not a number, but not below zero either.
  have hproduct : ¬ bin.rate * plane.1 * depth.1 < 0.0 :=
    Double.not_mul_lt_zero _ _ (Double.not_mul_lt_zero _ _ hrate (hplanes.nonneg plane hplane))
      (hdepths.nonneg depth hdepth)
  refine ⟨hproduct, fun hfinite => (Double.zero_le_iff _).mpr ⟨hproduct, ?_⟩⟩
  exact Double.isNaN_mul _ _ (hfinite bin hbin plane hplane) (hdepths.finite depth hdepth)

theorem countOrientations_pos (s : PointSource Float) (hplanes : s.planes.WellFormed)
    (hdepths : s.depths.WellFormed) : 1 ≤ s.countOrientations :=
  Nat.mul_pos (List.length_pos_iff.mpr hplanes.nonempty)
    (List.length_pos_iff.mpr hdepths.nonempty)

end PointSource

namespace Pmf

/-- Over the reals, the average over well-formed entries is a mean of their values. -/
theorem WellFormed.isMean_average {β : Type} {p : Pmf ℝ β} (h : p.WellFormed) :
    Exact.IsMean (p.entries.map Prod.snd) p.average :=
  isMean_average_of_ofEntries p.entries p (p.wellFormed_iff.mp h)

/-- When depths and planes are well-formed, and what follows.

    However they were made, their weights are finite, and they are well-formed as long as
    there is an entry and no negative weight. A list that passes the check is always
    well-formed. Sources with well-formed distributions have at least one orientation,
    and no rate is negative; and averages over well-formed entries are means. -/
theorem made_wellFormed {depths : Pmf Float Float} {planes : Pmf Float (NodalPlane Float)}
    (hdepths : depths.Made Json.Codec.real) (hplanes : planes.Made Exchange.plane) :
    (∀ entry ∈ depths.entries, entry.1.isFinite = true) ∧
    (∀ entry ∈ planes.entries, entry.1.isFinite = true) ∧
    (depths.WellFormed ↔ depths.entries ≠ [] ∧ ∀ entry ∈ depths.entries, ¬ entry.1 < 0.0) ∧
    (planes.WellFormed ↔ planes.entries ≠ [] ∧ ∀ entry ∈ planes.entries, ¬ entry.1 < 0.0) ∧
    (∀ {β : Type} (entries : List (Float × β)) (p : Pmf Float β),
      ofEntries entries = .ok p → p.WellFormed) ∧
    (depths.WellFormed → planes.WellFormed →
      ∀ (spec : PointSourceSpec Float) (s : PointSource Float),
        PointSource.ofSpec { spec with depths := depths, planes := planes } = .ok s →
        1 ≤ s.countOrientations ∧
        ∀ options, ∀ r ∈ s.ruptures options, ¬ r.rate < 0.0 ∧
          ((∀ bin ∈ s.bins, ∀ plane ∈ planes.entries, (bin.rate * plane.1).isFinite = true) →
            0.0 ≤ r.rate)) ∧
    ∀ {β : Type} (p : Pmf ℝ β), p.WellFormed →
      Exact.IsMean (p.entries.map Prod.snd) p.average := by
  refine ⟨hdepths.finite, hplanes.finite, hdepths.wellFormed_iff, hplanes.wellFormed_iff,
    fun entries p => wellFormed_of_ofEntries entries p, fun hdepths hplanes spec s hs => ?_,
    fun p h => h.isMean_average⟩
  have hspec := (PointSource.ofSpec_ok _ s hs).2
  have hsPlanes : s.planes = planes := by rw [hspec]
  have hsDepths : s.depths = depths := by rw [hspec]
  subst hsPlanes hsDepths
  exact ⟨s.countOrientations_pos hplanes hdepths, s.rate_nonneg hplanes hdepths⟩

/-- One depth and one plane that pass the check, and a source with them. -/
theorem made_wellFormed_central :
    ∃ s, PointSource.ofSpec (PointSource.central PointSource.yearly) = .ok s ∧
      1 ≤ s.countOrientations ∧ ∀ options, ∀ r ∈ s.ruptures options, 0.0 ≤ r.rate := by
  have hdepths : WellFormed (PointSource.central PointSource.yearly).depths :=
    ⟨List.cons_ne_nil _ _, by decide, by decide⟩
  have hplanes : WellFormed (PointSource.central PointSource.yearly).planes :=
    ⟨List.cons_ne_nil _ _, by decide, by decide⟩
  rcases PointSource.exists_ofSpec _ PointSource.yearly_valid with ⟨s, hs⟩
  obtain ⟨-, -, -, -, -, hsource, -⟩ := made_wellFormed
    (.checked ((wellFormed_iff _).mp hdepths)) (.checked ((wellFormed_iff _).mp hplanes))
  obtain ⟨hcount, hrates⟩ := hsource hdepths hplanes (PointSource.central PointSource.yearly) s hs
  refine ⟨s, hs, hcount, fun options r hr =>
    (hrates options r hr).2 fun bin hbin plane hplane => ?_⟩
  have hbins := (List.mem_filter.mp hbin).1
  rw [(PointSource.ofSpec_ok _ s hs).2] at hbins
  rw [List.mem_singleton.mp hbins, List.mem_singleton.mp hplane]
  decide

/-- A text without entries and one with a negative weight are read, and neither value is
    well-formed. A source without depths is accepted, and has no orientation. -/
theorem made_empty :
    (∃ p, (Exchange.pmf Json.Codec.real).parse "\x7b\"data\":[]\x7d" = .ok p ∧
      p.entries = [] ∧ ¬ p.WellFormed) ∧
    (∃ p, (Exchange.pmf Json.Codec.real).parse "\x7b\"data\":[[-1,5]]\x7d" = .ok p ∧
      ¬ p.WellFormed) ∧
    ∃ s, PointSource.ofSpec { PointSource.central PointSource.yearly with
        depths := { entries := [] } } = .ok s ∧ s.countOrientations = 0 := by
  have hempty : (match (Exchange.pmf Json.Codec.real).parse "\x7b\"data\":[]\x7d" with
      | .ok p => p.entries.isEmpty
      | .error _ => false) = true := by decide +kernel
  have hnegative : (match (Exchange.pmf Json.Codec.real).parse "\x7b\"data\":[[-1,5]]\x7d" with
      | .ok p => p.entries.any fun entry => entry.1 < 0.0
      | .error _ => false) = true := by decide +kernel
  refine ⟨?_, ?_, ?_⟩
  · split at hempty
    next p hparse =>
      have hentries := List.isEmpty_iff.mp hempty
      exact ⟨p, hparse, hentries, fun h => h.nonempty hentries⟩
    next => exact absurd hempty Bool.false_ne_true
  · split at hnegative
    next p hparse =>
      obtain ⟨entry, hentry, hweight⟩ := List.any_eq_true.mp hnegative
      exact ⟨p, hparse, fun h => h.nonneg entry hentry (of_decide_eq_true hweight)⟩
    next => exact absurd hnegative Bool.false_ne_true
  · have hvalid : ({ PointSource.central PointSource.yearly with depths := { entries := [] } } :
        PointSourceSpec Float).Valid :=
      { PointSource.yearly_valid with depths := fun _ h => absurd h List.not_mem_nil }
    rcases PointSource.exists_ofSpec _ hvalid with ⟨s, hs⟩
    refine ⟨s, hs, ?_⟩
    rw [PointSource.countOrientations, (PointSource.ofSpec_ok _ s hs).2]
    rfl

end Pmf

end Seismicity
