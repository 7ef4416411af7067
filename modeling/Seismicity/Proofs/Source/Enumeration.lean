import Mathlib.Tactic.Ring
import Seismicity.Proofs.Source.Agreement
import Seismicity.Proofs.Source.Rates

/-!
# The Full Enumeration

The full enumeration of a point source is the product of its three
distributions, and that of a cluster is what its members have one after the
other.

The enumeration is three lists nested in each other, and the two outer ones put
together lists of one length each. Where such lists start in the whole is a
multiple of that length, whatever they hold, so the law of positions is proved
of lists once (`getElem?_flatMap_of_length`) and used for depths and for planes.
Which bins are nested innermost does not matter; without a magnitude to filter
by they are all bins of the magnitude-frequency distribution with a positive rate.

## Main definitions

* `Rupture.Combines`: A rupture is made of a plane, a depth and a bin.
* `PointSource.skipping`: A source with a magnitude that never occurs.

## Theorems

* `length_flatMap_of_length`, `getElem?_flatMap_of_length`: Positions in lists of
  one length joined together.
* `combinations_length`, `combinations_getElem?`: The law of positions.
* `ruptures_ne_nil_iff`: When there are ruptures at all.
* `mem_bins_of_selected`: Only bins with a positive rate are selected.
* `mem_ruptures_iff`: The ruptures without their positions.
* `length_ruptures`: Ruptures are counted right.
* `rupture_combines`: The rupture at one position.
* `totalCount_eq_sum`: Counts are summed.
* `ruptures_product`: Both kinds of enumeration.
-/

namespace Seismicity

section Lists

variable {β γ : Type} (f : β → List γ) (n : Nat)

theorem length_flatMap_of_length (hlength : ∀ x, (f x).length = n) (xs : List β) :
    (xs.flatMap f).length = xs.length * n := by
  induction xs with
  | nil => rw [List.flatMap_nil, List.length_nil, List.length_nil, Nat.zero_mul]
  | cons x rest ih =>
      rw [List.flatMap_cons, List.length_append, hlength, ih, List.length_cons, Nat.succ_mul,
        Nat.add_comm]

/-- Where lists of length `n` are joined, the `i`-th starts at position `i n`. -/
theorem getElem?_flatMap_of_length (hlength : ∀ x, (f x).length = n) (k : Nat) (hk : k < n) :
    ∀ (xs : List β) (i : Nat),
      (xs.flatMap f)[i * n + k]? = xs[i]?.bind fun x => (f x)[k]? := by
  intro xs
  induction xs with
  | nil =>
      intro i
      rw [List.flatMap_nil, List.getElem?_nil, List.getElem?_nil, Option.bind_none]
  | cons x rest ih =>
      intro i
      rw [List.flatMap_cons]
      cases i with
      | zero =>
          have hfirst : 0 * n + k < (f x).length := by
            rw [hlength]
            omega
          rw [List.getElem?_append_left hfirst, List.getElem?_cons_zero, Option.bind_some,
            Nat.zero_mul, Nat.zero_add]
      | succ i =>
          have hpast : (i + 1) * n + k = (f x).length + (i * n + k) := by
            rw [hlength]
            ring
          rw [hpast, List.getElem?_append_right (Nat.le_add_right _ _), Nat.add_sub_cancel_left,
            List.getElem?_cons_succ, ih i]

end Lists

theorem totalCount_eq_sum (counts : List Nat) : totalCount counts = counts.sum := rfl

variable {α : Type} [Scalar α]

namespace PointSource

variable {β : Type} (s : PointSource α) (options : RuptureOptions α)
  (f : Bin α → NodalPlane α → Point α → β)

theorem combinations_length : (s.combinations options f).length
    = s.planes.size * (s.depths.size * (s.selectedBins options).length) := by
  refine length_flatMap_of_length _ _ (fun plane => ?_) _
  refine length_flatMap_of_length _ _ (fun depth => ?_) _
  exact List.length_map _

/-- Nothing is missing for a rupture exactly if there are planes, depths and bins. -/
theorem ruptures_ne_nil_iff (hall : options.magnitude = none) :
    s.ruptures options ≠ [] ↔
      s.planes.entries ≠ [] ∧ s.depths.entries ≠ [] ∧ s.bins ≠ [] := by
  have hbins : s.selectedBins options = s.bins := by rw [selectedBins, hall]
  rw [ruptures, ne_eq, ← List.length_eq_zero_iff, combinations_length, hbins, Nat.mul_eq_zero,
    Nat.mul_eq_zero, Pmf.size, Pmf.size, List.length_eq_zero_iff, List.length_eq_zero_iff,
    List.length_eq_zero_iff, not_or, not_or]

/-- The combination of the `i`-th plane, the `j`-th depth and the `k`-th bin. -/
theorem combinations_getElem? (i j k : Nat) (hj : j < s.depths.size)
    (hk : k < (s.selectedBins options).length) :
    (s.combinations options f)[(i * s.depths.size + j) * (s.selectedBins options).length + k]? =
      s.planes.entries[i]?.bind fun plane => s.depths.entries[j]?.bind fun depth =>
        (s.selectedBins options)[k]?.map fun bin =>
          f { bin with rate := bin.rate * plane.1 * depth.1 } plane.2
            (s.location.atDepth depth.2) := by
  have hinner : j * (s.selectedBins options).length + k
      < s.depths.size * (s.selectedBins options).length := by
    calc
      j * (s.selectedBins options).length + k
          < j * (s.selectedBins options).length + (s.selectedBins options).length := by omega
      _ = (j + 1) * (s.selectedBins options).length := by ring
      _ ≤ s.depths.size * (s.selectedBins options).length := Nat.mul_le_mul_right _ hj
  -- Each plane has `H M` entries, and among these the position is `j M + k`.
  have hposition : (i * s.depths.size + j) * (s.selectedBins options).length + k
      = i * (s.depths.size * (s.selectedBins options).length)
        + (j * (s.selectedBins options).length + k) := by
    ring
  rw [hposition, combinations, getElem?_flatMap_of_length _
    (s.depths.size * (s.selectedBins options).length) _ _ hinner]
  · refine congrArg (s.planes.entries[i]?.bind ·) (funext fun plane => ?_)
    rw [getElem?_flatMap_of_length _ (s.selectedBins options).length _ _ hk]
    · refine congrArg (s.depths.entries[j]?.bind ·) (funext fun depth => ?_)
      exact List.getElem?_map
    · exact fun depth => List.length_map _
  · intro plane
    exact length_flatMap_of_length _ _ (fun depth => List.length_map _) _

/-- Only bins with a positive rate are selected. -/
theorem mem_bins_of_selected (bin : Bin α) (h : bin ∈ s.selectedBins options) : bin ∈ s.bins := by
  rw [selectedBins] at h
  cases hmagnitude : options.magnitude with
  | none =>
      rw [hmagnitude] at h
      exact h
  | some m =>
      rw [hmagnitude] at h
      exact (List.mem_filter.mp h).1

/-- What the full enumeration holds: for each plane, depth and selected bin one
    rupture. -/
theorem mem_ruptures_iff (r : Rupture α) : r ∈ s.ruptures options ↔
    ∃ plane ∈ s.planes.entries, ∃ depth ∈ s.depths.entries, ∃ bin ∈ s.selectedBins options,
      r = s.setting.rupture bin.magnitude (bin.rate * plane.1 * depth.1) plane.2
        (s.location.atDepth depth.2) options.asPoint options.shift := by
  simp only [ruptures, combinations, List.mem_flatMap, List.mem_map, eq_comm]

/-- As many ruptures are enumerated as are counted. -/
theorem length_ruptures (asPoint shift : Bool) :
    (s.ruptures { magnitude := none, asPoint := asPoint, shift := shift }).length
      = s.countRuptures := by
  rw [ruptures, combinations_length, countRuptures, countOrientations, selectedBins]
  ring

/-- The steady source has two planes, two depths and two bins. -/
theorem length_ruptures_steady (asPoint shift : Bool) :
    (steady.ruptures { magnitude := none, asPoint := asPoint, shift := shift }).length = 8 := by
  rw [length_ruptures, countRuptures, bins_steady]
  rfl

end PointSource

/-- A rupture of the full enumeration of `s` is made of a plane and a depth with
    their weights, and of a bin. -/
structure Rupture.Combines (r : Rupture α) (s : PointSource α) (options : RuptureOptions α)
    (plane : α × NodalPlane α) (depth : α × α) (bin : Bin α) : Prop where
  magnitude : r.magnitude = bin.magnitude
  rake : r.rake = plane.2.rake
  rate : r.rate = bin.rate * plane.1 * depth.1
  region : r.region = s.region
  occurrence : r.occurrence = s.occurrence
  isPoint : r.isPoint = options.asPoint
  /-- Only planes may shift the hypocenter, to their centre. -/
  hypocenter : ¬ (options.asPoint = false ∧ options.shift = true) →
    r.hypocenter =
      { longitude := s.location.longitude, latitude := s.location.latitude, depth := depth.2 }

/-- What the enumeration makes of a plane, a depth and a bin. -/
theorem rupture_combines (s : PointSource α) (options : RuptureOptions α)
    (plane : α × NodalPlane α) (depth : α × α) (bin : Bin α) :
    (s.setting.rupture bin.magnitude (bin.rate * plane.1 * depth.1) plane.2
      (s.location.atDepth depth.2) options.asPoint options.shift).Combines s options plane depth
        bin := by
  rw [RuptureSetting.rupture]
  cases hpoint : options.asPoint with
  | true => exact ⟨rfl, rfl, rfl, rfl, rfl, hpoint.symm, fun _ => rfl⟩
  | false =>
      refine ⟨rfl, rfl, rfl, rfl, rfl, hpoint.symm, fun hkept => ?_⟩
      cases hshift : options.shift with
      | false => rfl
      | true => exact absurd ⟨hpoint, hshift⟩ hkept

/-- The full enumeration is the product of the three distributions.

    Without a magnitude to filter by, a point source has as many ruptures as it
    counts, one for each plane, depth and bin of its magnitude-frequency distribution
    with a positive rate, and at position `(i H + j) M + k` stands the rupture of the
    `i`-th plane, the `j`-th depth and the `k`-th of these bins. A cluster has the
    ruptures of its members, member by member, and its counts are the sums of theirs,
    so that it has as many ruptures as it counts, too. -/
theorem ruptures_product (asPoint shift : Bool) :
    (∀ s : PointSource α,
      (s.ruptures { magnitude := none, asPoint := asPoint, shift := shift }).length
        = s.countRuptures ∧
      s.countRuptures = s.planes.entries.length * s.depths.entries.length
        * (s.recurrence.bins.filter fun bin => 0.0 < bin.rate).length ∧
      ∀ (i : Fin s.planes.entries.length) (j : Fin s.depths.entries.length)
        (k : Fin (s.recurrence.bins.filter fun bin => 0.0 < bin.rate).length), ∃ r,
        (s.ruptures { magnitude := none, asPoint := asPoint, shift := shift })[
          (i * s.depths.entries.length + j)
            * (s.recurrence.bins.filter fun bin => 0.0 < bin.rate).length + k]? = some r ∧
        r.Combines s { magnitude := none, asPoint := asPoint, shift := shift }
          s.planes.entries[i] s.depths.entries[j]
          (s.recurrence.bins.filter fun bin => 0.0 < bin.rate)[k]) ∧
    ∀ c : Cluster α,
      (∀ options, c.ruptures options = c.members.flatMap fun s => s.ruptures options) ∧
      c.countRuptures = (c.members.map PointSource.countRuptures).sum ∧
      c.countOrientations = (c.members.map PointSource.countOrientations).sum ∧
      (c.ruptures { magnitude := none, asPoint := asPoint, shift := shift }).length
        = c.countRuptures := by
  refine ⟨fun s => ⟨s.length_ruptures asPoint shift, ?_,
    fun i j k => ⟨_, ?_, rupture_combines s _ _ _ _⟩⟩, fun c => ?_⟩
  · rw [PointSource.countRuptures, PointSource.countOrientations, PointSource.bins, Pmf.size,
      Pmf.size]
    ring
  · have hposition := s.combinations_getElem?
      { magnitude := none, asPoint := asPoint, shift := shift }
      (fun bin plane hypocenter => s.setting.rupture bin.magnitude bin.rate plane hypocenter
        asPoint shift) i j k j.isLt k.isLt
    refine hposition.trans ?_
    -- Without a magnitude to filter by, the bins with a positive rate are all selected.
    have hbin : (s.selectedBins { magnitude := none, asPoint := asPoint, shift := shift })[k.val]?
        = some (s.recurrence.bins.filter fun bin => 0.0 < bin.rate)[k] :=
      List.getElem?_eq_getElem k.isLt
    rw [List.getElem?_eq_getElem i.isLt, List.getElem?_eq_getElem j.isLt, hbin]
    rfl
  · refine ⟨fun options => rfl, rfl, rfl, ?_⟩
    rw [Cluster.ruptures, List.length_flatMap, Cluster.countRuptures, totalCount_eq_sum]
    exact congrArg List.sum (List.map_congr_left fun s _ => s.length_ruptures asPoint shift)

/-- The lasting source, with a magnitude in the middle that never occurs. -/
noncomputable def PointSource.skipping : PointSource ℝ :=
  { steady.lasting with recurrence := .arbitrary [5.0, 6.0, 7.0] [1.0, 0.0, 0.5] }

theorem PointSource.bins_skipping :
    (skipping.recurrence.bins.filter fun bin => 0.0 < bin.rate) = [⟨5.0, 1.0⟩, ⟨7.0, 0.5⟩] := by
  have hrare : ¬ (0.0 : ℝ) < 0.0 := lt_irrefl _
  have hfirst : (0.0 : ℝ) < 1.0 := by norm_num
  have hlast : (0.0 : ℝ) < 0.5 := by norm_num
  change [(⟨5.0, 1.0⟩ : Bin ℝ), ⟨6.0, 0.0⟩, ⟨7.0, 0.5⟩].filter (fun bin => 0.0 < bin.rate) = _
  simp only [List.filter_cons, hfirst, hrare, hlast, decide_true, decide_false, if_true,
    Bool.false_eq_true, if_false, List.filter_nil]

/-- Two planes, two depths and two magnitudes that occur are eight ruptures. The sixth is that of
    the second plane, the first depth and the greatest magnitude. Two such sources have sixteen. -/
theorem ruptures_product_skipping :
    PointSource.skipping.countRuptures = 8 ∧
    (PointSource.skipping.ruptures
      { magnitude := none, asPoint := false, shift := false }).length = 8 ∧
    (∃ r : Rupture ℝ, (PointSource.skipping.ruptures
        { magnitude := none, asPoint := false, shift := false })[5]? = some r ∧
      r.magnitude = 7.0 ∧ r.rate = 0.5 * 0.5 * 0.25 ∧ r.rake = -90.0 ∧ r.hypocenter.depth = 0.0) ∧
    ((Cluster.ofMembers "skipping" PointSource.skipping [PointSource.skipping]).ruptures
      { magnitude := none, asPoint := false, shift := false }).length = 16 := by
  rcases (ruptures_product false false).1 PointSource.skipping with ⟨hlength, hcount, hposition⟩
  have hbins := congrArg List.length PointSource.bins_skipping
  have hlast : 1 < (PointSource.skipping.recurrence.bins.filter fun bin => 0.0 < bin.rate).length :=
    Nat.one_lt_two.trans_eq hbins.symm
  rcases hposition ⟨1, Nat.one_lt_two⟩ ⟨0, Nat.zero_lt_two⟩ ⟨1, hlast⟩ with ⟨r, hr, hcombines⟩
  have hbin : (PointSource.skipping.recurrence.bins.filter fun bin => 0.0 < bin.rate)[
      (⟨1, hlast⟩ : Fin _)] = ⟨7.0, 0.5⟩ := List.getElem_of_eq PointSource.bins_skipping hlast
  rw [hbins] at hcount
  change _[(1 * 2 + 0) * List.length _ + 1]? = _ at hr
  rw [hbins] at hr
  rw [hbin] at hcombines
  have htotal : PointSource.skipping.countRuptures = 8 := hcount
  refine ⟨htotal, hlength.trans htotal, ⟨r, hr, hcombines.magnitude, hcombines.rate,
    hcombines.rake, ?_⟩, ?_⟩
  · rw [hcombines.hypocenter fun h => absurd h.2 Bool.false_ne_true]
    rfl
  · rcases (ruptures_product false false).2
      (Cluster.ofMembers "skipping" PointSource.skipping [PointSource.skipping]) with
      ⟨_, hsum, _, hall⟩
    rw [hall, hsum]
    change [PointSource.skipping.countRuptures, PointSource.skipping.countRuptures].sum = 16
    rw [htotal]
    rfl

end Seismicity
