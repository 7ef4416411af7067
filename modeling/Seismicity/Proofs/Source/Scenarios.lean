import Seismicity.Proofs.Source.Enumeration
import Seismicity.Proofs.Source.Sampling

/-!
# Ruptures Made Again

Each planar rupture of a source can be made on its own, as a scenario.

Sources and scenarios compute the geometry of a rupture in two ways, from the data of the source
and from data that are given for one rupture. What a rupture keeps of these is its magnitude, its
rate and its hypocenter. Its plane is not among them: a rupture has a surface and a rake. So the
plane comes from elsewhere. In the averaged enumeration it is the same for all ruptures, and in
the full one the position of a rupture tells which it is (`exists_combination`), whatever
magnitude is asked for.

Then nothing is left to chance. The hypocenter of a rupture is the place its surface was laid
out from, because it is not shifted, so the surface is laid out again as it was
(`scenario_input`, `remade_rupture`). This needs no arithmetic and holds of every kind of
numbers.

## Main definitions

* `RuptureSetting.scenario`, `RuptureSetting.remade`: The scenario made from a rupture, and the
  rupture made from that.
* `PointSource.planeAt`: The plane at a position of the full enumeration.

## Theorems

* `exists_combination`: What is combined at a position.
* `scenario_input`, `remade_rupture`: The scenario made from a rupture makes it again.
* `ruptures_remade`: Both kinds of enumeration.
-/

namespace Seismicity

/-- The digits of a position, in steps of `m` and of `h m`. -/
theorem position_eq (n h m : Nat) : (n / (h * m) * h + n / m % h) * m + n % m = n := by
  rw [Nat.mul_comm h, ← Nat.div_div_eq_div_mul, Nat.div_add_mod', Nat.div_add_mod']

variable {α : Type} [Scalar α]

namespace PointSource

section Positions

variable (s : PointSource α) (options : RuptureOptions α)

/-- The plane at a position of the full enumeration. The ruptures of one plane stand together,
    one for each depth and selected bin. -/
def planeAt (n : Nat) : Option (NodalPlane α) :=
  s.planes.entries[n / (s.depths.size * (s.selectedBins options).length)]?.map Prod.snd

variable {β : Type} (f : Bin α → NodalPlane α → Point α → β)

/-- What is combined at a position: the law of positions, read backwards. -/
theorem exists_combination (n : Fin (s.combinations options f).length) :
    ∃ plane depth bin,
      s.planes.entries[n / (s.depths.size * (s.selectedBins options).length)]? = some plane ∧
      s.depths.entries[n / (s.selectedBins options).length % s.depths.size]? = some depth ∧
      (s.selectedBins options)[n % (s.selectedBins options).length]? = some bin ∧
      (s.combinations options f)[n]
        = f { bin with rate := bin.rate * plane.1 * depth.1 } plane.2
          (s.location.atDepth depth.2) := by
  have hn : n < s.planes.entries.length * (s.depths.size * (s.selectedBins options).length) := by
    rw [← Pmf.size, ← s.combinations_length options f]
    exact n.isLt
  -- A position exists only if there are depths and bins.
  have hpos : 0 < s.depths.size * (s.selectedBins options).length :=
    Nat.pos_of_ne_zero fun hzero => by
      rw [hzero, Nat.mul_zero] at hn
      exact Nat.not_lt_zero _ hn
  have hdepths : 0 < s.depths.size := Nat.pos_of_mul_pos_right hpos
  have hbins : 0 < (s.selectedBins options).length := Nat.pos_of_mul_pos_left hpos
  have hi : n / (s.depths.size * (s.selectedBins options).length) < s.planes.entries.length :=
    Nat.div_lt_of_lt_mul (by rwa [Nat.mul_comm])
  have hj : n / (s.selectedBins options).length % s.depths.size < s.depths.size :=
    Nat.mod_lt _ hdepths
  have hk : n % (s.selectedBins options).length < (s.selectedBins options).length :=
    Nat.mod_lt _ hbins
  have hentry := s.combinations_getElem? options f
    (n / (s.depths.size * (s.selectedBins options).length)) _ _ hj hk
  rw [position_eq, List.getElem?_eq_getElem hi, List.getElem?_eq_getElem hj,
    List.getElem?_eq_getElem hk, List.getElem?_eq_getElem n.isLt] at hentry
  exact ⟨_, _, _, List.getElem?_eq_getElem hi, List.getElem?_eq_getElem hj,
    List.getElem?_eq_getElem hk, Option.some_inj.mp hentry⟩

end Positions

end PointSource

namespace RuptureSetting

variable (setting : RuptureSetting α) (plane : NodalPlane α)

/-- The scenario made from a rupture on a plane. -/
def scenario (r : Rupture α) : Scenario α :=
  { scaling := setting.scaling
    aspectRatio := setting.aspectRatio
    upper := setting.upper
    lower := setting.lower
    plane := plane
    hypocenter := r.hypocenter
    rate := r.rate
    occurrence := setting.occurrence }

/-- The rupture made from that scenario, in the same region and of the same magnitude. -/
def remade (r : Rupture α) : Rupture α :=
  (setting.scenario plane r).rupture setting.region r.magnitude

/-- The geometry is computed from the same data. -/
theorem scenario_input (r : Rupture α) (magnitude : α) :
    (setting.scenario plane r).input magnitude = setting.input magnitude plane r.hypocenter :=
  rfl

/-- A planar rupture keeps the hypocenter it was laid out from, so its scenario makes it
    again. -/
theorem remade_rupture (magnitude rate : α) (hypocenter : Point α) :
    setting.remade plane (setting.rupture magnitude rate plane hypocenter false false)
      = setting.rupture magnitude rate plane hypocenter false false := by
  have hhypocenter : (setting.rupture magnitude rate plane hypocenter false false).hypocenter
      = hypocenter := rfl
  rw [remade, Scenario.rupture, scenario_input, hhypocenter]
  rfl

end RuptureSetting

/-- Each planar rupture of a source can be made on its own.

    In the full enumeration, for any magnitude that is asked for, the scenario made from a
    rupture and the plane of its position makes the rupture again. In the averaged enumeration
    of a point source or a cluster all ruptures lie on one plane, and so does the scenario made
    from any of them. -/
theorem ruptures_remade :
    (∀ (s : PointSource α) (magnitude : Option α)
      (n : Fin (s.ruptures { magnitude := magnitude, asPoint := false, shift := false }).length),
      ∃ plane r,
        s.planeAt { magnitude := magnitude, asPoint := false, shift := false } n = some plane ∧
        (s.ruptures { magnitude := magnitude, asPoint := false, shift := false })[n]? = some r ∧
        s.setting.remade plane r = r) ∧
    ∀ p : PointLike α,
      (p.averagedRuptures false).map (p.setting.remade p.averagePlane)
        = p.averagedRuptures false := by
  refine ⟨fun s magnitude n => ?_, fun p => ?_⟩
  · rcases s.exists_combination { magnitude := magnitude, asPoint := false, shift := false }
      (fun bin plane hypocenter =>
        s.setting.rupture bin.magnitude bin.rate plane hypocenter false false) n
      with ⟨plane, depth, bin, hplane, hdepth, hbin, hrupture⟩
    refine ⟨plane.2, _, ?_, List.getElem?_eq_getElem n.isLt, ?_⟩
    · rw [PointSource.planeAt, hplane, Option.map_some]
    · have hmade := s.setting.remade_rupture plane.2 bin.magnitude (bin.rate * plane.1 * depth.1)
        (s.location.atDepth depth.2)
      rw [← hrupture] at hmade
      exact hmade
  · rw [p.averagedRuptures_eq, RuptureSetting.averagedRuptures_false, List.map_map]
    refine List.map_congr_left fun bin _ => ?_
    exact p.setting.remade_rupture p.averagePlane bin.magnitude bin.rate p.averageHypocenter

/-- The sixth rupture of the steady source is made again on the second of its planes, and so are
    its two averaged ruptures on their plane. -/
theorem ruptures_remade_steady :
    (∃ (plane : NodalPlane ℝ) (r : Rupture ℝ),
      (PointSource.steady.ruptures
        { magnitude := none, asPoint := false, shift := false })[5]? = some r ∧
      plane.strike = 350.0 ∧ PointSource.steady.setting.remade plane r = r) ∧
    (PointSource.steady.averagedRuptures false).length = 2 ∧
    (PointSource.steady.averagedRuptures false).map
        (PointSource.steady.setting.remade PointSource.steady.averagePlane)
      = PointSource.steady.averagedRuptures false := by
  have hlt : 5 < (PointSource.steady.ruptures
      { magnitude := none, asPoint := false, shift := false }).length := by
    rw [PointSource.length_ruptures_steady]
    decide
  refine ⟨?_, ?_, ruptures_remade.2 (.single PointSource.steady)⟩
  · rcases ruptures_remade.1 PointSource.steady none ⟨5, hlt⟩ with ⟨plane, r, hplane, hr, hmade⟩
    have hselected : (PointSource.steady.selectedBins
        { magnitude := none, asPoint := false, shift := false }).length = 2 :=
      congrArg List.length PointSource.bins_steady
    -- Two depths and two magnitudes make four ruptures on each plane.
    have hsecond : PointSource.steady.planeAt
        { magnitude := none, asPoint := false, shift := false } 5
        = some ⟨350.0, 30.0, -90.0⟩ := by
      rw [PointSource.planeAt, hselected]
      rfl
    rw [Option.some.inj (hplane.symm.trans hsecond)] at hmade
    exact ⟨_, r, hr, rfl, hmade⟩
  · rw [PointSource.averagedRuptures, RuptureSetting.averagedRuptures_false, List.length_map,
      PointSource.bins_steady]
    rfl

end Seismicity
