import Seismicity.Exchange.Source
import Seismicity.Proofs.Exchange.Geometry

/-!
# Models Are Read Back

Ruptures, sources and whole models are read back from what they are written as, if all
their numbers are.

## Theorems

* `faithful_recurrence`, `faithful_modelRecurrence`: The two ways in which
  distributions of magnitudes are written.
* `faithful_rupture`, `faithful_entry`, `faithful_model`: Ruptures, entries and models.
* `restores_values`: Values of every kind are read back from their texts.
-/

namespace Seismicity

namespace Exchange

open Json

theorem faithful_string (name : String) (n : Nat) (s : String) :
    (string name).Faithful [name] n s := .written (Codec.faithful_string n s) rfl

theorem faithful_count (name : String) (n : Nat) {k : Nat} (h : k < twoTo 64) :
    (count name).Faithful [name] n k := .written (Codec.faithful_count n k h) rfl

section Recurrences

variable (n : Nat)

theorem faithful_evenFields {low width : Float} {rates : List Float}
    (h : ∀ d ∈ low :: width :: rates, Printed d) :
    evenFields.Faithful ["min_mag", "bin_width", "occurrence_rates"] (n + 1)
      (low, width, rates) := by
  simp only [List.forall_mem_cons] at h
  obtain ⟨hlow, hwidth, hrates⟩ := h
  exact (hlow.field _ _).both <| (hwidth.field _ _).both <| faithful_reals _ n hrates

theorem faithful_truncatedFields {low high width a b : Float}
    (h : ∀ d ∈ [low, high, width, a, b], Printed d) :
    truncatedFields.Faithful ["min_mag", "max_mag", "bin_width", "a_val", "b_val"] n
      (low, high, width, a, b) := by
  simp only [List.forall_mem_cons] at h
  obtain ⟨hlow, hhigh, hwidth, ha, hb, -⟩ := h
  exact (hlow.field _ n).both <| (hhigh.field _ n).both <| (hwidth.field _ n).both <|
    (ha.field _ n).both <| hb.field _ n

theorem faithful_arbitraryFields {magnitudes rates : List Float}
    (h : ∀ d ∈ magnitudes ++ rates, Printed d) :
    arbitraryFields.Faithful ["magnitudes", "occurrence_rates"] (n + 1) (magnitudes, rates) := by
  obtain ⟨hmagnitudes, hrates⟩ := List.forall_mem_append.mp h
  exact (faithful_reals _ n hmagnitudes).both (faithful_reals _ n hrates)

/-- The name of an alternative is the key of its fields. -/
theorem faithful_recurrence {r : Recurrence Float} (h : ∀ d ∈ r.doubles, Printed d) :
    recurrence.Faithful (n + 3) r := by
  cases r with
  | evenlyDiscretized low width rates =>
      exact .variants rfl rfl (.fields (faithful_evenFields n h) (by decide) rfl)
  | truncated low high width a b =>
      exact .variants rfl rfl (.fields (faithful_truncatedFields (n + 1) h) (by decide) rfl)
  | arbitrary magnitudes rates =>
      exact .variants rfl rfl (.fields (faithful_arbitraryFields n h) (by decide) rfl)

/-- The name of an alternative stands among its fields. -/
theorem faithful_modelRecurrence {r : Recurrence Float} (h : ∀ d ∈ r.doubles, Printed d) :
    modelRecurrence.Faithful (n + 2) r := by
  cases r with
  | evenlyDiscretized low width rates =>
      exact .tagged rfl rfl (.fields (faithful_evenFields n h) (by decide) rfl)
  | truncated low high width a b =>
      exact .tagged rfl rfl (.fields (faithful_truncatedFields (n + 1) h) (by decide) rfl)
  | arbitrary magnitudes rates =>
      exact .tagged rfl rfl (.fields (faithful_arbitraryFields n h) (by decide) rfl)

end Recurrences

/-- Scaling relations are written as their names. -/
theorem faithful_scaling (n : Nat) (relation : ScalingRelation) :
    scaling.Faithful (n + 1) relation := by
  have hholds : (relation == relation) = true := by cases relation <;> rfl
  cases relation <;> exact .variants rfl rfl (.unit hholds)

theorem faithful_poisson (n : Nat) {p : Poisson Float} (h : ∀ d ∈ p.doubles, Printed d) :
    poisson.Faithful (n + 1) p :=
  .record (.via ((h _ List.mem_cons_self).field _ n) rfl) (by decide)

theorem faithful_otherSource (n : Nat) {s : OtherSource} (h : ∀ k ∈ s.counts, k < twoTo 64) :
    otherSource.Faithful (n + 1) s := by
  simp only [OtherSource.counts, List.forall_mem_cons] at h
  obtain ⟨hgroup, hindex, -⟩ := h
  exact .record
    (.via ((faithful_string _ n _).both <| (faithful_string _ n _).both <|
      (faithful_string _ n _).both <| (faithful_count _ n hgroup).both <|
      faithful_count _ n hindex) rfl)
    (by decide)

theorem faithful_ruptureSurface (n : Nat) {s : RuptureSurface Float}
    (h : ∀ d ∈ s.doubles, Printed d) : ruptureSurface.Faithful (n + 3) s := by
  cases s with
  | point => exact .variants rfl rfl (.unit rfl)
  | planar surface => exact .variants rfl rfl (.value (faithful_surface n h) rfl)

/-- Ruptures, whether or not they have a surface or an occurrence in time. -/
theorem faithful_rupture (n : Nat) {r : Rupture Float} (h : ∀ d ∈ r.doubles, Printed d) :
    rupture.Faithful (n + 4) r := by
  simp only [Rupture.doubles, List.forall_mem_cons, List.forall_mem_append] at h
  obtain ⟨hmagnitude, hrake, hrate, ⟨hhypocenter, hsurface⟩, hoccurrence⟩ := h
  -- A missing occurrence is written as `null`, and no occurrence is.
  have hpoisson : (Codec.option poisson).Faithful (n + 3) r.occurrence := by
    cases hr : r.occurrence with
    | none => exact Codec.faithful_none poisson (n + 3)
    | some p =>
        rw [hr] at hoccurrence
        exact .option (faithful_poisson (n + 2) hoccurrence) Json.noConfusion
  exact .record
    (.via ((hmagnitude.field _ (n + 3)).both <| (hrake.field _ (n + 3)).both <|
      (faithful_string _ (n + 3) _).both <| (faithful_pointField _ (n + 2) hhypocenter).both <|
      (Fields.Faithful.written (faithful_ruptureSurface n hsurface) rfl).both <|
      (hrate.field _ (n + 3)).both <| .written hpoisson rfl) rfl)
    (by decide)

theorem faithful_entryPlane (n : Nat) {entry : Float × NodalPlane Float} (hweight : Printed entry.1)
    (h : ∀ d ∈ entry.2.doubles, Printed d) : entryPlane.Faithful (n + 1) entry :=
  .record ((hweight.field _ n).both (faithful_planeFields n h)) (by decide)

theorem faithful_entryDepth (n : Nat) {entry : Float × Float} (hweight : Printed entry.1)
    (h : Printed entry.2) : entryDepth.Faithful (n + 1) entry :=
  .record ((hweight.field _ n).both (h.field _ n)) (by decide)

theorem faithful_entryLocation (n : Nat) {location : Float × Float}
    (hlongitude : Printed location.1) (hlatitude : Printed location.2) :
    entryLocation.Faithful (n + 1) location :=
  .record ((hlongitude.field _ n).both (hlatitude.field _ n)) (by decide)

theorem faithful_entry (n : Nat) {e : SourceEntry Float} (h : ∀ d ∈ e.doubles, Printed d)
    (hcounts : ∀ k ∈ e.counts, k < twoTo 64) : entry.Faithful (n + 3) e := by
  simp only [SourceEntry.doubles, List.forall_mem_append, List.forall_mem_cons,
    forall_mem_weightedDoubles] at h
  obtain ⟨⟨⟨⟨hratio, hspacing, hupper, hlower, hlongitude, hlatitude, -⟩, hrecurrence⟩, hplanes⟩,
    hdepths⟩ := h
  simp only [SourceEntry.counts, List.forall_mem_cons] at hcounts
  obtain ⟨hgroup, hindex, -⟩ := hcounts
  have hplane : (Codec.list entryPlane).Faithful (n + 2) e.planes :=
    .list fun plane hmem => faithful_entryPlane n (hplanes plane hmem).1 (hplanes plane hmem).2
  have hdepth : (Codec.list entryDepth).Faithful (n + 2) e.depths :=
    .list fun depth hmem => faithful_entryDepth n (hdepths depth hmem).1 (hdepths depth hmem).2.1
  exact .record
    (.via ((faithful_string _ (n + 2) _).both <| (faithful_string _ (n + 2) _).both <|
      (faithful_string _ (n + 2) _).both <| (faithful_count _ (n + 2) hgroup).both <|
      (faithful_count _ (n + 2) hindex).both <|
      (Fields.Faithful.written (faithful_modelRecurrence n hrecurrence) rfl).both <|
      (faithful_string _ (n + 2) _).both <| (hratio.field _ (n + 2)).both <|
      (Fields.Faithful.written (hspacing.faithful (n + 2)) rfl).both <|
      (hupper.field _ (n + 2)).both <| (hlower.field _ (n + 2)).both <|
      (Fields.Faithful.written (faithful_entryLocation (n + 1) hlongitude hlatitude) rfl).both <|
      (Fields.Faithful.written hplane rfl).both <| .written hdepth rfl) rfl)
    (by decide)

/-- A double that is only written when it is there. -/
theorem faithful_sparseReal (name : String) (n : Nat) {x : Option Float}
    (h : ∀ d ∈ x.toList, Printed d) : (sparseReal name).Faithful [name] n x := by
  cases x with
  | none => exact .sparse (Codec.faithful_none Codec.real n)
  | some d =>
      have hd := h d List.mem_cons_self
      refine .sparse (.option (hd.faithful n) ?_)
      rw [Codec.encode_real hd.finite]
      exact Json.noConfusion

theorem faithful_model (n : Nat) {m : SourceModel Float} (h : ∀ d ∈ m.doubles, Printed d)
    (hcounts : ∀ k ∈ m.counts, k < twoTo 64) : model.Faithful (n + 5) m := by
  simp only [SourceModel.doubles, List.forall_mem_append, List.forall_mem_flatMap] at h
  obtain ⟨⟨htimeSpan, hspacing⟩, hentries⟩ := h
  simp only [SourceModel.counts, List.forall_mem_flatMap] at hcounts
  have hentry : (Codec.list entry).Faithful (n + 4) m.entries :=
    .list fun e he => faithful_entry n (hentries e he) (hcounts e he)
  exact .record
    (.via ((faithful_string _ (n + 4) _).both <| (faithful_sparseReal _ (n + 4) htimeSpan).both <|
      (faithful_sparseReal _ (n + 4) hspacing).both <| .written hentry rfl) rfl)
    (by decide)

section Samples

/-- One and a half is read back from its text. -/
theorem printed_oneAndHalf : Printed 1.5 where
  finite := by decide
  legible := by
    have htext : renderNumber (.real 1.5) = "1.5" := by decide +kernel
    have hscan : scan "1.5" = (.number (Numeral.real false 15 (-1)), some []) := rfl
    have hquotient : Float.ofNat 15 / Numeral.powerOfTen 1 = 1.5 := by decide +kernel
    rw [Legible, htext, hscan, Numeral.real, Numeral.scale]
    exact congrArg (fun x => (Scanned.number (.ok (.real x)), some [])) hquotient

theorem printed_of_eq_replicate {ds : List Float} (n : Nat) (h : ds = List.replicate n 1.5) :
    ∀ d ∈ ds, Printed d := by
  subst h
  intro d hd
  rw [List.eq_of_mem_replicate hd]
  exact printed_oneAndHalf

/-- A point, a plane and an entry, with the same number everywhere and with strings that
    need escapes. -/
def samplePoint : Point Float := { longitude := 1.5, latitude := 1.5, depth := 1.5 }

def samplePlane : NodalPlane Float := { strike := 1.5, dip := 1.5, rake := 1.5 }

def sampleEntry (r : Recurrence Float) : SourceEntry Float :=
  { id := "a\"b\\", name := "two\nlines\t", region := "", group := 7, modelIndex := twoTo 64 - 1
    recurrence := r, scaling := "WC1994", aspectRatio := 1.5, meshSpacing := 1.5, upper := 1.5
    lower := 1.5, longitude := 1.5, latitude := 1.5, planes := [(1.5, samplePlane)]
    depths := [(1.5, 1.5), (1.5, 1.5)] }

/-- A model with a distribution of each kind, and with one of its two options. -/
def sampleModel : SourceModel Float :=
  { name := "model", timeSpan := some 1.5, gridSpacing := none
    entries :=
      [sampleEntry (.evenlyDiscretized 1.5 1.5 [1.5, 1.5]),
        sampleEntry (.truncated 1.5 1.5 1.5 1.5 1.5), sampleEntry (.arbitrary [1.5] [])] }

/-- A rupture with a surface and an occurrence in time. -/
def sampleRupture : Rupture Float :=
  { magnitude := 1.5, rake := 1.5, region := "", hypocenter := samplePoint
    surface := .planar
      { strike := 1.5, dip := 1.5, topLeft := samplePoint, topRight := samplePoint
        bottomRight := samplePoint, bottomLeft := samplePoint, hypocenter := samplePoint }
    rate := 1.5, occurrence := some { timeSpan := 1.5 } }

end Samples

/-- Every value that is exchanged is read back from its texts, if its doubles are finite
    and read back from theirs. Nothing else is asked of it: it need not be valid, and its
    strings may hold any characters. -/
theorem restores_values :
    (∀ m : SourceModel Float, (∀ d ∈ m.doubles, Printed d) → (∀ k ∈ m.counts, k < twoTo 64) →
      model.Restores m) ∧
    (∀ e : SourceEntry Float, (∀ d ∈ e.doubles, Printed d) → (∀ k ∈ e.counts, k < twoTo 64) →
      entry.Restores e) ∧
    (∀ p : Point Float, (∀ d ∈ p.doubles, Printed d) → point.Restores p) ∧
    (∀ p : NodalPlane Float, (∀ d ∈ p.doubles, Printed d) → plane.Restores p) ∧
    (∀ p : Pmf Float Float, (∀ d ∈ p.doubles (fun depth => [depth]), Printed d) →
      (pmf Codec.real).Restores p) ∧
    (∀ p : Pmf Float (NodalPlane Float), (∀ d ∈ p.doubles NodalPlane.doubles, Printed d) →
      (pmf plane).Restores p) ∧
    (∀ b : BoundingBox Float, (∀ d ∈ b.doubles, Printed d) → box.Restores b) ∧
    (∀ p : Polygon Float, (∀ d ∈ p.doubles, Printed d) → polygon.Restores p) ∧
    (∀ r : Recurrence Float, (∀ d ∈ r.doubles, Printed d) →
      recurrence.Restores r ∧ modelRecurrence.Restores r) ∧
    (∀ r : ScalingRelation, scaling.Restores r) ∧
    (∀ p : Poisson Float, (∀ d ∈ p.doubles, Printed d) → poisson.Restores p) ∧
    (∀ s : OtherSource, (∀ k ∈ s.counts, k < twoTo 64) → otherSource.Restores s) ∧
    (∀ i : RuptureInput Float, (∀ d ∈ i.doubles, Printed d) → ruptureInput.Restores i) ∧
    (∀ e : Extent Float, (∀ d ∈ e.doubles, Printed d) → extent.Restores e) ∧
    (∀ g : AverageGeometry Float, (∀ d ∈ g.doubles, Printed d) → averageGeometry.Restores g) ∧
    (∀ s : PlanarSurface Float, (∀ d ∈ s.doubles, Printed d) → surface.Restores s) ∧
    (∀ r : Rupture Float, (∀ d ∈ r.doubles, Printed d) → rupture.Restores r) := by
  have hreal : ∀ y : Float, (∀ d ∈ [y], Printed d) → Codec.real.Faithful 1 y :=
    fun y h => (h y List.mem_cons_self).faithful 1
  refine ⟨fun _ h hcounts => ?model, fun _ h hcounts => ?entry, fun _ h => ?point,
    fun _ h => ?plane, fun _ h => ?depths, fun _ h => ?planes, fun _ h => ?box,
    fun _ h => ?polygon, fun _ h => ⟨?recurrence, ?modelRecurrence⟩, fun r => ?scaling,
    fun _ h => ?poisson, fun _ h => ?otherSource, fun _ h => ?ruptureInput, fun _ h => ?extent,
    fun _ h => ?averageGeometry, fun _ h => ?surface, fun _ h => ?rupture⟩
  case model => exact (faithful_model 0 h hcounts).restores (by decide)
  case entry => exact (faithful_entry 0 h hcounts).restores (by decide)
  case point => exact (faithful_point 0 h).restores (by decide)
  case plane => exact (faithful_plane 0 h).restores (by decide)
  case depths => exact (faithful_pmf hreal h).restores (by decide)
  case planes => exact (faithful_pmf (fun _ => faithful_plane 0) h).restores (by decide)
  case box => exact (faithful_box 0 h).restores (by decide)
  case polygon => exact (faithful_polygon 0 h).restores (by decide)
  case recurrence => exact (faithful_recurrence 0 h).restores (by decide)
  case modelRecurrence => exact (faithful_modelRecurrence 0 h).restores (by decide)
  case scaling => exact (faithful_scaling 0 r).restores (by decide)
  case poisson => exact (faithful_poisson 0 h).restores (by decide)
  case otherSource => exact (faithful_otherSource 0 h).restores (by decide)
  case ruptureInput => exact (faithful_ruptureInput 0 h).restores (by decide)
  case extent => exact (faithful_extent 0 h).restores (by decide)
  case averageGeometry => exact (faithful_averageGeometry 0 h).restores (by decide)
  case surface => exact (faithful_surface 0 h).restores (by decide)
  case rupture => exact (faithful_rupture 0 h).restores (by decide)

theorem restores_values_samples :
    (∀ k ∈ sampleModel.counts, k < twoTo 64) ∧ model.Restores sampleModel ∧
      (pmf plane).Restores { entries := [(1.5, samplePlane), (1.5, samplePlane)] } ∧
      otherSource.Restores
        { id := "\u0001", name := "", region := "", group := 1, modelIndex := 0 } ∧
      rupture.Restores sampleRupture := by
  have hcounts : ∀ k ∈ sampleModel.counts, k < twoTo 64 := by decide
  obtain ⟨hmodel, -, -, -, -, hpmf, -, -, -, -, -, hother, -, -, -, -, hrupture⟩ := restores_values
  exact ⟨hcounts, hmodel _ (printed_of_eq_replicate 53 rfl) hcounts,
    hpmf _ (printed_of_eq_replicate 8 rfl), hother _ (by decide),
    hrupture _ (printed_of_eq_replicate 24 rfl)⟩

end Exchange

end Seismicity
