import Seismicity.Exchange.Geometry
import Seismicity.Proofs.Exchange.Contents
import Seismicity.Proofs.Json.Codecs

/-!
# Geometry Is Read Back

Points, planes, boxes, rings and surfaces are read back from what they are written as,
if all their doubles are.

## Main definitions

* `Exchange.Printed`: A double that is read back from its text.

## Theorems

* `faithful_point`, …, `faithful_surface`: One for each codec of geometry.
-/

namespace Seismicity

namespace Exchange

open Json

/-- A finite double that is read back from its text. -/
structure Printed (x : Float) : Prop where
  finite : x.isFinite = true
  legible : Legible (.real x)

theorem Printed.faithful {x : Float} (h : Printed x) (n : Nat) : Codec.real.Faithful n x :=
  Codec.faithful_real n x h.finite h.legible

theorem Printed.field {x : Float} (h : Printed x) (name : String) (n : Nat) :
    (real name).Faithful [name] n x := .written (h.faithful n) rfl

theorem faithful_reals (name : String) (n : Nat) {xs : List Float} (h : ∀ x ∈ xs, Printed x) :
    (reals name).Faithful [name] (n + 1) xs :=
  .written (.list fun x hx => (h x hx).faithful n) rfl

theorem faithful_point (n : Nat) {p : Point Float} (h : ∀ d ∈ p.doubles, Printed d) :
    point.Faithful (n + 1) p := by
  simp only [Point.doubles, List.forall_mem_cons] at h
  obtain ⟨hlongitude, hlatitude, hdepth, -⟩ := h
  exact .record
    (.via ((hlongitude.field _ n).both <| (hlatitude.field _ n).both <|
      .written (hdepth.faithful n) rfl) rfl)
    (by decide)

theorem faithful_pointField (name : String) (n : Nat) {p : Point Float}
    (h : ∀ d ∈ p.doubles, Printed d) : (pointField name).Faithful [name] (n + 1) p :=
  .written (faithful_point n h) rfl

theorem faithful_planeFields (n : Nat) {p : NodalPlane Float} (h : ∀ d ∈ p.doubles, Printed d) :
    planeFields.Faithful ["strike", "dip", "rake"] n p := by
  simp only [NodalPlane.doubles, List.forall_mem_cons] at h
  obtain ⟨hstrike, hdip, hrake, -⟩ := h
  exact .via ((hstrike.field _ n).both <| (hdip.field _ n).both <| hrake.field _ n) rfl

theorem faithful_plane (n : Nat) {p : NodalPlane Float} (h : ∀ d ∈ p.doubles, Printed d) :
    plane.Faithful (n + 1) p := .record (faithful_planeFields n h) (by decide)

/-- Probability mass functions, if their values are read back. -/
theorem faithful_pmf {β : Type} {values : Codec β} {held : β → List Float} {n : Nat}
    (hvalue : ∀ y, (∀ d ∈ held y, Printed d) → values.Faithful n y) {p : Pmf Float β}
    (h : ∀ d ∈ p.doubles held, Printed d) : (pmf values).Faithful (n + 3) p := by
  have hentry : ∀ entry ∈ p.entries, (Codec.real.pair values).Faithful (n + 1) entry := by
    intro entry hmem
    obtain ⟨hweight, hheld⟩ := forall_mem_weightedDoubles.mp h entry hmem
    exact .pair (hweight.faithful n) (hvalue entry.2 hheld)
  exact .record (.via (.written (.list hentry) rfl) rfl) (by decide)

theorem faithful_box (n : Nat) {b : BoundingBox Float} (h : ∀ d ∈ b.doubles, Printed d) :
    box.Faithful (n + 1) b := by
  simp only [BoundingBox.doubles, List.forall_mem_cons] at h
  obtain ⟨hwest, hsouth, heast, hnorth, -⟩ := h
  exact .record
    (.via ((hwest.field _ n).both <| (hsouth.field _ n).both <| (heast.field _ n).both <|
      hnorth.field _ n) rfl)
    (by decide)

theorem faithful_polygon (n : Nat) {p : Polygon Float} (h : ∀ d ∈ p.doubles, Printed d) :
    polygon.Faithful (n + 2) p := by
  obtain ⟨hlongitudes, hlatitudes⟩ := List.forall_mem_append.mp h
  exact .record (.via ((faithful_reals _ n hlongitudes).both (faithful_reals _ n hlatitudes)) rfl)
    (by decide)

theorem faithful_ruptureInput (n : Nat) {i : RuptureInput Float}
    (h : ∀ d ∈ i.doubles, Printed d) : ruptureInput.Faithful (n + 1) i := by
  simp only [RuptureInput.doubles, List.forall_mem_cons] at h
  obtain ⟨hupper, hlower, hratio, hmagnitude, harea, hstrike, hdip, hrake, hlongitude, hlatitude,
    hdepth, -⟩ := h
  exact .record
    (.via ((hupper.field _ n).both <| (hlower.field _ n).both <| (hratio.field _ n).both <|
      (hmagnitude.field _ n).both <| (harea.field _ n).both <| (hstrike.field _ n).both <|
      (hdip.field _ n).both <| (hrake.field _ n).both <| (hlongitude.field _ n).both <|
      (hlatitude.field _ n).both <| hdepth.field _ n) rfl)
    (by decide)

theorem faithful_extent (n : Nat) {e : Extent Float} (h : ∀ d ∈ e.doubles, Printed d) :
    extent.Faithful (n + 1) e := by
  simp only [Extent.doubles, List.forall_mem_cons] at h
  obtain ⟨hlength, hhorizontal, hvertical, -⟩ := h
  exact .record
    (.via ((hlength.field _ n).both <| (hhorizontal.field _ n).both <| hvertical.field _ n) rfl)
    (by decide)

theorem faithful_averageGeometry (n : Nat) {g : AverageGeometry Float}
    (h : ∀ d ∈ g.doubles, Printed d) : averageGeometry.Faithful (n + 1) g := by
  simp only [AverageGeometry.doubles, List.forall_mem_cons] at h
  obtain ⟨hlongitude, hlatitude, hdepth, hstrike, hdip, hrake, hupper, hlower, hratio, -⟩ := h
  exact .record
    (.via ((hlongitude.field _ n).both <| (hlatitude.field _ n).both <| (hdepth.field _ n).both <|
      (hstrike.field _ n).both <| (hdip.field _ n).both <| (hrake.field _ n).both <|
      (hupper.field _ n).both <| (hlower.field _ n).both <| hratio.field _ n) rfl)
    (by decide)

theorem faithful_surface (n : Nat) {s : PlanarSurface Float} (h : ∀ d ∈ s.doubles, Printed d) :
    surface.Faithful (n + 2) s := by
  simp only [PlanarSurface.doubles, List.forall_mem_cons, List.forall_mem_append, and_assoc] at h
  obtain ⟨hstrike, hdip, htopLeft, htopRight, hbottomRight, hbottomLeft, hhypocenter⟩ := h
  exact .record
    (.via ((hstrike.field _ (n + 1)).both <| (hdip.field _ (n + 1)).both <|
      (faithful_pointField _ n htopLeft).both <| (faithful_pointField _ n htopRight).both <|
      (faithful_pointField _ n hbottomRight).both <| (faithful_pointField _ n hbottomLeft).both <|
      faithful_pointField _ n hhypocenter) rfl)
    (by decide)

end Exchange

end Seismicity
