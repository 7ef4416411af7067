import Mathlib.Data.List.Forall2
import Seismicity.Proofs.Rupture.Layer
import Seismicity.Proofs.Source.Enumeration

/-!
# Modes of the Full Enumeration

The full enumeration can be asked for as points or as planes, and with the hypocenter
as it is or shifted to the centre of the plane. The four modes differ only in geometry.

A mode is looked at in one place only, where a rupture is made of its bin, plane and
hypocenter. Which ruptures are made, and in which order, depends on the magnitude asked
for and on nothing else. So a relation that holds between the ruptures that two modes
make of the same bin, plane and hypocenter holds between the two enumerations, position
by position (`PointLike.forall₂_ruptures`), and the modes need only be compared on one
rupture.

Where a plane had to move to fit into its layer, only the shifted hypocenter moves with
it. A rupture without surface therefore has the hypocenter of the unshifted one, whatever
happens to the plane.

## Main definitions

* `Rupture.erased`: A rupture without its surface.
* `Rupture.SameEvent`: Two ruptures differ in geometry at most.
* `Rupture.Recentred`: A planar rupture is given another hypocenter.
* `Rupture.Midway`: The hypocenter is half way between the edges.

## Theorems

* `forall₂_flatMap`: Joined lists are related if their pieces are.
* `forall₂_combinations`, `forall₂_ruptures`: What modes make of one rupture, they make of
  all.
* `surfaceOf_midway`: The centre of a surface lies between its edges.
* `rupture_sameEvent`, `rupture_erased`, `rupture_recentred`, `rupture_midway`: The modes
  on one rupture.
* `ruptures_modes`: The modes on the whole enumeration.
-/

namespace Seismicity

variable {α : Type}

namespace Rupture

/-- The rupture without its surface. -/
def erased (r : Rupture α) : Rupture α := { r with surface := .point }

/-- Two ruptures of one event: they differ in hypocenter and surface at most. -/
structure SameEvent (r r' : Rupture α) : Prop where
  magnitude : r.magnitude = r'.magnitude
  rake : r.rake = r'.rake
  region : r.region = r'.region
  rate : r.rate = r'.rate
  occurrence : r.occurrence = r'.occurrence

/-- The second rupture is the first one, on the same plane, with another hypocenter. Each
    has the hypocenter of its surface. -/
def Recentred (r shifted : Rupture α) : Prop :=
  ∃ surface center, r.surface = .planar surface ∧ r.hypocenter = surface.hypocenter ∧
    shifted = { r with
      hypocenter := center
      surface := .planar { surface with hypocenter := center } }

/-- The rupture has a surface, and its hypocenter is half way between the edges. -/
structure Midway (r : Rupture ℝ) : Prop where
  depth : ∃ surface, r.surface = .planar surface ∧
    r.hypocenter.depth = (surface.topDepth + surface.bottomDepth) / 2

end Rupture

variable [Scalar α]

namespace RuptureSetting

variable (setting : RuptureSetting α) (magnitude rate : α) (plane : NodalPlane α)
  (hypocenter : Point α)

theorem rupture_sameEvent (asPoint shift asPoint' shift' : Bool) :
    (setting.rupture magnitude rate plane hypocenter asPoint shift).SameEvent
      (setting.rupture magnitude rate plane hypocenter asPoint' shift') := by
  cases asPoint <;> cases asPoint' <;> exact ⟨rfl, rfl, rfl, rfl, rfl⟩

/-- A point rupture is the unshifted planar one without its surface, also where the plane
    had to move. -/
theorem rupture_erased (shift : Bool) :
    setting.rupture magnitude rate plane hypocenter true shift
      = (setting.rupture magnitude rate plane hypocenter false false).erased :=
  rfl

theorem rupture_recentred :
    (setting.rupture magnitude rate plane hypocenter false false).Recentred
      (setting.rupture magnitude rate plane hypocenter false true) :=
  ⟨_, ((setting.input magnitude plane hypocenter).surface true).hypocenter, rfl, rfl, rfl⟩

end RuptureSetting

/-- The centre of a surface is half way between its edges, wherever it has moved. -/
theorem RuptureInput.surfaceOf_midway (input : RuptureInput ℝ) (extent : Extent ℝ) :
    (input.surfaceOf extent).hypocenter.depth
      = ((input.surfaceOf extent).topDepth + (input.surfaceOf extent).bottomDepth) / 2 := by
  have htop : (input.surfaceOf extent).topDepth
      = (input.placement extent).centerDepth - extent.vertical / 2 := by
    rw [← Exact.half_eq]
    rfl
  have hbottom : (input.surfaceOf extent).bottomDepth
      = (input.placement extent).centerDepth + extent.vertical / 2 := by
    rw [← Exact.half_eq]
    rfl
  have hcenter : (input.surfaceOf extent).hypocenter.depth
      = (input.placement extent).centerDepth := centerOf_depth input extent
  rw [htop, hbottom, hcenter]
  ring

theorem RuptureSetting.rupture_midway (setting : RuptureSetting ℝ) (magnitude rate : ℝ)
    (plane : NodalPlane ℝ) (hypocenter : Point ℝ) :
    (setting.rupture magnitude rate plane hypocenter false true).Midway :=
  ⟨_, rfl, RuptureInput.surfaceOf_midway _ _⟩

/-- Lists that are related piece by piece are related when they are joined. -/
theorem forall₂_flatMap {β γ δ : Type} {R : γ → δ → Prop} (f : β → List γ) (g : β → List δ)
    (h : ∀ x, List.Forall₂ R (f x) (g x)) (xs : List β) :
    List.Forall₂ R (xs.flatMap f) (xs.flatMap g) := by
  refine List.rel_flatMap (R := Eq) (List.forall₂_refl xs) ?_
  rintro x _ rfl
  exact h x

/-- What is made of each combination is related if what is made of one is. -/
theorem PointSource.forall₂_combinations {β γ : Type} {R : β → γ → Prop} (s : PointSource α)
    (options options' : RuptureOptions α) (hsame : options.magnitude = options'.magnitude)
    (f : Bin α → NodalPlane α → Point α → β) (g : Bin α → NodalPlane α → Point α → γ)
    (h : ∀ bin plane hypocenter, R (f bin plane hypocenter) (g bin plane hypocenter)) :
    List.Forall₂ R (s.combinations options f) (s.combinations options' g) := by
  have hbins : s.selectedBins options = s.selectedBins options' := by
    rw [selectedBins, selectedBins, hsame]
  rw [combinations, combinations, hbins]
  refine forall₂_flatMap _ _ (fun plane => ?_) s.planes.entries
  refine forall₂_flatMap _ _ (fun depth => ?_) s.depths.entries
  rw [List.forall₂_map_left_iff, List.forall₂_map_right_iff, List.forall₂_same]
  exact fun bin _ => h _ _ _

/-- Two modes of the full enumeration are related, position by position, if the ruptures
    are that they make of the same bin, plane and hypocenter. -/
theorem PointLike.forall₂_ruptures {R : Rupture α → Rupture α → Prop} (p : PointLike α)
    (magnitude : Option α) (asPoint shift asPoint' shift' : Bool)
    (h : ∀ (setting : RuptureSetting α) m rate plane hypocenter,
      R (setting.rupture m rate plane hypocenter asPoint shift)
        (setting.rupture m rate plane hypocenter asPoint' shift')) :
    List.Forall₂ R
      (p.ruptures { magnitude := magnitude, asPoint := asPoint, shift := shift })
      (p.ruptures { magnitude := magnitude, asPoint := asPoint', shift := shift' }) := by
  have hsource : ∀ s : PointSource α, List.Forall₂ R
      (s.ruptures { magnitude := magnitude, asPoint := asPoint, shift := shift })
      (s.ruptures { magnitude := magnitude, asPoint := asPoint', shift := shift' }) := by
    intro s
    rw [PointSource.ruptures, PointSource.ruptures]
    exact s.forall₂_combinations _ _ rfl _ _ fun bin plane hypocenter => h _ _ _ _ _
  cases p with
  | single s => exact hsource s
  | clustered c => exact forall₂_flatMap _ _ hsource c.members

/-- The modes of the full enumeration differ only in geometry.

    Whatever magnitude is asked for, the enumerations of points and of planes, shifted or
    not, are of one length, and at each position they have ruptures of one event. The two
    enumerations of points are equal, and they are the unshifted enumeration of planes
    without its surfaces. The shifted enumeration of planes is the unshifted one with other
    hypocenters. In exact arithmetic these are half way between the edges of the planes. -/
theorem ruptures_modes :
    (∀ (α : Type) [Scalar α] (p : PointLike α) (magnitude : Option α),
      (∀ asPoint shift asPoint' shift' : Bool,
        List.Forall₂ Rupture.SameEvent
          (p.ruptures { magnitude := magnitude, asPoint := asPoint, shift := shift })
          (p.ruptures { magnitude := magnitude, asPoint := asPoint', shift := shift' })) ∧
      p.ruptures { magnitude := magnitude, asPoint := true, shift := true }
        = p.ruptures { magnitude := magnitude, asPoint := true, shift := false } ∧
      p.ruptures { magnitude := magnitude, asPoint := true, shift := false }
        = (p.ruptures { magnitude := magnitude, asPoint := false, shift := false }).map
            Rupture.erased ∧
      List.Forall₂ Rupture.Recentred
        (p.ruptures { magnitude := magnitude, asPoint := false, shift := false })
        (p.ruptures { magnitude := magnitude, asPoint := false, shift := true })) ∧
    ∀ (p : PointLike ℝ) (magnitude : Option ℝ),
      List.Forall₂ (fun r shifted => r.Recentred shifted ∧ shifted.Midway)
        (p.ruptures { magnitude := magnitude, asPoint := false, shift := false })
        (p.ruptures { magnitude := magnitude, asPoint := false, shift := true }) := by
  refine ⟨fun α _ p magnitude => ⟨fun asPoint shift asPoint' shift' => ?_, ?_, ?_, ?_⟩,
    fun p magnitude => ?_⟩
  · exact p.forall₂_ruptures magnitude asPoint shift asPoint' shift'
      fun setting m rate plane hypocenter => setting.rupture_sameEvent _ _ _ _ _ _ _ _
  -- Lists that are related by equality are equal.
  · rw [← List.forall₂_eq_eq_eq]
    exact p.forall₂_ruptures magnitude true true true false
      fun setting m rate plane hypocenter => rfl
  · rw [← List.forall₂_eq_eq_eq, List.forall₂_map_right_iff]
    exact p.forall₂_ruptures magnitude true false false false
      fun setting m rate plane hypocenter => setting.rupture_erased _ _ _ _ false
  · exact p.forall₂_ruptures magnitude false false false true
      fun setting m rate plane hypocenter => setting.rupture_recentred _ _ _ _
  · exact p.forall₂_ruptures magnitude false false false true
      fun setting m rate plane hypocenter =>
        ⟨setting.rupture_recentred _ _ _ _, setting.rupture_midway _ _ _ _⟩

/-- In each mode the steady source has a sixth rupture. As a plane, the shifted one is half way
    between the edges, and as a point it is the unshifted one without its surface. -/
theorem ruptures_modes_steady :
    ∃ r shifted : Rupture ℝ,
      (PointSource.steady.ruptures
        { magnitude := none, asPoint := false, shift := false })[5]? = some r ∧
      (PointSource.steady.ruptures
        { magnitude := none, asPoint := false, shift := true })[5]? = some shifted ∧
      (PointSource.steady.ruptures
        { magnitude := none, asPoint := true, shift := true })[5]? = some r.erased ∧
      r.SameEvent shifted ∧ r.Recentred shifted ∧ shifted.Midway := by
  rcases ruptures_modes.1 ℝ (.single PointSource.steady) none with ⟨hevents, hpoints, herased, _⟩
  have hplanes := ruptures_modes.2 (.single PointSource.steady) none
  have hlt : ∀ shift, 5 < (PointSource.steady.ruptures
      { magnitude := none, asPoint := false, shift := shift }).length := by
    intro shift
    rw [PointSource.length_ruptures_steady]
    decide
  refine ⟨_, _, List.getElem?_eq_getElem (hlt false), List.getElem?_eq_getElem (hlt true), ?_,
    (hevents false false false true).get (hlt false) (hlt true),
    hplanes.get (hlt false) (hlt true)⟩
  refine (congrArg (fun ruptures : List (Rupture ℝ) => ruptures[5]?)
    (hpoints.trans herased)).trans ?_
  rw [List.getElem?_map]
  exact congrArg (Option.map Rupture.erased) (List.getElem?_eq_getElem (hlt false))

end Seismicity
