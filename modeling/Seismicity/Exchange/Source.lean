import Seismicity.Exchange.Geometry
import Seismicity.Json.Tagged
import Seismicity.Model

/-!
# Exchange of Sources and Models

How ruptures, the parts of sources, and whole models are exchanged as JSON.

## Main definitions

* `Exchange.recurrence`, `Exchange.scaling`, `Exchange.poisson`,
  `Exchange.otherSource`, `Exchange.rupture`: Codecs of parts.
* `Exchange.entry`, `Exchange.model`: Codecs of models.
-/

namespace Seismicity

namespace Exchange

open Json

/-- A field that holds a string. -/
def string (name : String) : Fields String :=
  Fields.field name Codec.string Fields.required

/-- A field that holds a count, zero unless it is given. -/
def count (name : String) : Fields Nat :=
  Fields.field name Codec.count (Fields.defaulted 0)

/-- The fields of rates at even steps. -/
def evenFields : Fields (Float × Float × List Float) :=
  (real "min_mag").both ((real "bin_width").both (reals "occurrence_rates"))

/-- The fields of a truncated law. -/
def truncatedFields : Fields (Float × Float × Float × Float × Float) :=
  (real "min_mag").both ((real "max_mag").both ((real "bin_width").both
    ((real "a_val").both (real "b_val"))))

/-- The fields of explicit magnitudes and rates. -/
def arbitraryFields : Fields (List Float × List Float) :=
  (reals "magnitudes").both (reals "occurrence_rates")

/-- Rates at even steps, from their fields. -/
def evenOf : Float × Float × List Float → Recurrence Float :=
  fun (low, width, rates) => .evenlyDiscretized low width rates

/-- The fields of rates at even steps. -/
def even? : Recurrence Float → Option (Float × Float × List Float)
  | .evenlyDiscretized low width rates => some (low, width, rates)
  | _ => none

/-- A truncated law, from its fields. -/
def truncatedOf : Float × Float × Float × Float × Float → Recurrence Float :=
  fun (low, high, width, a, b) => .truncated low high width a b

/-- The fields of a truncated law. -/
def truncated? : Recurrence Float → Option (Float × Float × Float × Float × Float)
  | .truncated low high width a b => some (low, high, width, a, b)
  | _ => none

/-- Explicit magnitudes and rates, from their fields. -/
def arbitraryOf : List Float × List Float → Recurrence Float :=
  fun (magnitudes, rates) => .arbitrary magnitudes rates

/-- The fields of explicit magnitudes and rates. -/
def arbitrary? : Recurrence Float → Option (List Float × List Float)
  | .arbitrary magnitudes rates => some (magnitudes, rates)
  | _ => none

/-- Magnitude-frequency distributions. -/
def recurrence : Codec (Recurrence Float) :=
  Codec.variants
    [ Variant.fields "Mfd" "EvenlyDiscretized" evenFields evenOf even?,
      Variant.fields "Mfd" "TruncatedGr" truncatedFields truncatedOf truncated?,
      Variant.fields "Mfd" "Arbitrary" arbitraryFields arbitraryOf arbitrary? ]

/-- Magnitude-frequency distributions within models. -/
def modelRecurrence : Codec (Recurrence Float) :=
  Codec.tagged "MfdConfig" "kind"
    [ TaggedVariant.fields "MfdConfig" "EvenlyDiscretized" "evenly_discretized"
        evenFields evenOf even?,
      TaggedVariant.fields "MfdConfig" "TruncatedGr" "truncated_gr"
        truncatedFields truncatedOf truncated?,
      TaggedVariant.fields "MfdConfig" "Arbitrary" "arbitrary"
        arbitraryFields arbitraryOf arbitrary? ]

/-- Scaling relations. -/
def scaling : Codec ScalingRelation :=
  Codec.variants
    (ScalingRelation.all.map fun relation =>
      Variant.unit relation.name relation fun other => other == relation)

/-- Occurrences in time. -/
def poisson : Codec (Poisson Float) :=
  Codec.record "PoissonTom" <|
    (real "time_span").via (fun timeSpan => { timeSpan := timeSpan }) Poisson.timeSpan

/-- Sources of other kinds. -/
def otherSource : Codec OtherSource :=
  Codec.record "OpaqueSource" <|
    ((string "source_id").both ((string "name").both ((string "tectonic_region_type").both
      ((count "grp_id").both (count "trt_smr"))))).via
      (fun (id, name, region, group, modelIndex) =>
        { id := id, name := name, region := region, group := group, modelIndex := modelIndex })
      (fun s => (s.id, s.name, s.region, s.group, s.modelIndex))

/-- The surface of a planar rupture. -/
def planar? : RuptureSurface Float → Option (PlanarSurface Float)
  | .point => none
  | .planar surface => some surface

/-- The surfaces of ruptures. -/
def ruptureSurface : Codec (RuptureSurface Float) :=
  Codec.variants
    [ Variant.unit "Point" .point fun s => (planar? s).isNone,
      Variant.value "Planar" surface .planar planar? ]

/-- Ruptures. -/
def rupture : Codec (Rupture Float) :=
  Codec.record "Rupture" <|
    ((real "mag").both ((real "rake").both ((string "tectonic_region_type").both
      ((pointField "hypocenter").both
      ((Fields.field "surface" ruptureSurface Fields.required).both
      ((real "occurrence_rate").both
      (Fields.field "temporal_occurrence_model" (Codec.option poisson)
        Fields.optional))))))).via
      (fun (magnitude, rake, region, hypocenter, surface, rate, occurrence) =>
        { magnitude := magnitude, rake := rake, region := region, hypocenter := hypocenter
          surface := surface, rate := rate, occurrence := occurrence })
      (fun r =>
        (r.magnitude, r.rake, r.region, r.hypocenter, r.surface, r.rate, r.occurrence))

/-- The location of an entry: its longitude and latitude. -/
def entryLocation : Codec (Float × Float) :=
  Codec.record "LocationConfig" ((real "lon").both (real "lat"))

/-- A nodal plane of an entry, with its probability. -/
def entryPlane : Codec (Float × NodalPlane Float) :=
  Codec.record "NodalPlaneConfig" ((real "probability").both planeFields)

/-- A hypocentral depth of an entry, with its probability. -/
def entryDepth : Codec (Float × Float) :=
  Codec.record "HypoDepthConfig" ((real "probability").both (real "depth"))

/-- The entries of point sources. The mesh spacing is one unless it is given. -/
def entry : Codec (SourceEntry Float) :=
  Codec.record "PointSourceConfig" <|
    ((string "source_id").both ((string "name").both ((string "tectonic_region_type").both
      ((count "grp_id").both ((count "trt_smr").both
      ((Fields.field "mfd" modelRecurrence Fields.required).both
      ((string "msr").both ((real "rupture_aspect_ratio").both
      ((Fields.field "rupture_mesh_spacing" Codec.real (Fields.defaulted 1.0)).both
      ((real "upper_seismogenic_depth").both ((real "lower_seismogenic_depth").both
      ((Fields.field "location" entryLocation Fields.required).both
      ((Fields.field "nodal_plane_distribution" (Codec.list entryPlane) Fields.required).both
      (Fields.field "hypocenter_distribution" (Codec.list entryDepth)
        Fields.required)))))))))))))).via
      (fun (id, name, region, group, modelIndex, recurrence, scaling, aspectRatio, meshSpacing,
          upper, lower, (longitude, latitude), planes, depths) =>
        { id := id, name := name, region := region, group := group, modelIndex := modelIndex
          recurrence := recurrence, scaling := scaling, aspectRatio := aspectRatio
          meshSpacing := meshSpacing, upper := upper, lower := lower, longitude := longitude
          latitude := latitude, planes := planes, depths := depths })
      (fun e =>
        (e.id, e.name, e.region, e.group, e.modelIndex, e.recurrence, e.scaling, e.aspectRatio,
          e.meshSpacing, e.upper, e.lower, (e.longitude, e.latitude), e.planes, e.depths))

/-- A field that holds a double, and is only written when it is there. -/
def sparseReal (name : String) : Fields (Option Float) :=
  Fields.field name (Codec.option Codec.real) Fields.sparse

/-- Models. -/
def model : Codec (SourceModel Float) :=
  Codec.record "SourceModelConfig" <|
    ((string "model_name").both ((sparseReal "investigation_time").both
      ((sparseReal "ps_grid_spacing").both
      (Fields.field "sources" (Codec.list entry) Fields.required)))).via
      (fun (name, timeSpan, gridSpacing, entries) =>
        { name := name, timeSpan := timeSpan, gridSpacing := gridSpacing, entries := entries })
      (fun m => (m.name, m.timeSpan, m.gridSpacing, m.entries))

end Exchange

end Seismicity
