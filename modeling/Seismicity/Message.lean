import Seismicity.Decimal.Shortest
import Seismicity.Double.Arithmetic
import Seismicity.Gridding

/-!
# Messages

The wording of every failure, for sources described with doubles. Each
failure belongs to a category, which is named at the front of its text.

## Main definitions

* `Category`: The categories of failures.
* `Failure.category`, `Failure.message`: The category and the text.
* `Point.wkt`, `Polygon.wkt`: Well-known text.
-/

namespace Seismicity

/-- Numbers inside messages. -/
abbrev shown (x : Float) : String := Double.plain x

/-- The well-known text of a point. The depth is not part of it. -/
def Point.wkt (p : Point Float) : String :=
  "POINT(" ++ shown p.longitude ++ " " ++ shown p.latitude ++ ")"

/-- The well-known text of a ring, which repeats the first vertex at the end. -/
def Polygon.wkt (p : Polygon Float) : String :=
  let coordinates := (p.longitudes.zip p.latitudes).map fun (longitude, latitude) =>
    shown longitude ++ " " ++ shown latitude
  "POLYGON((" ++ ", ".intercalate (coordinates ++ coordinates.take 1) ++ "))"

/-- The well-known text of a point-like source. -/
def PointLike.wkt (p : PointLike Float) : String := p.location.wkt

/-- A time span that is written out with a point, and in scientific form below
    a ten-thousandth and from `10 ^ 16` on. -/
def timeSpanStyle : Decimal.Style :=
  { tie := .away
    positional := fun place => -4 < place && place ≤ 16
    keepsPoint := true
    signsExponent := false }

/-- An occurrence in time, as messages show it. -/
def occurrenceText : Option (Poisson Float) → String
  | none => "None"
  | some tom =>
    "Some(PoissonTom \x7b time_span: " ++ Double.text timeSpanStyle tom.timeSpan ++ " \x7d)"

/-- What is wrong with an angle. -/
def PlaneFault.message : PlaneFault Float → String
  | .strike value => "strike " ++ shown value ++ " is out of range [0, 360)"
  | .dip value => "dip " ++ shown value ++ " is out of range (0, 90]"
  | .rake value => "rake " ++ shown value ++ " is out of range [-180, 180]"

/-- What is wrong with weighted values. -/
def PmfFault.message : PmfFault Float → String
  | .noEntries => "PMF requires at least one (weight, value) pair"
  | .weight value => "PMF weight " ++ shown value ++ " must be finite and non-negative"

/-- What is wrong with a magnitude-frequency distribution. -/
def RecurrenceFault.message : RecurrenceFault Float → String
  | .binWidth value => "MFD bin width must be positive, got " ++ shown value
  | .minMagnitude => "MFD minimum magnitude must be finite"
  | .parameters => "Truncated GR parameters must be finite"
  | .range low high =>
    "Truncated GR requires max_mag > min_mag, got " ++ shown low ++ ".." ++ shown high
  | .slope b => "Truncated GR b-value must be positive, got " ++ shown b
  | .lengths given needed =>
    "Arbitrary MFD has " ++ toString given ++ " magnitudes but " ++ toString needed ++ " rates"
  | .magnitudes => "Arbitrary MFD magnitudes must be finite"
  | .order later earlier =>
    "Arbitrary MFD magnitudes must be strictly increasing, got " ++ shown later ++ " after "
      ++ shown earlier
  | .rates => "MFD occurrence rates must be finite and non-negative"

/-- How a source differs from the first of its cluster. -/
def ClusterFault.message : ClusterFault Float → String
  | .empty => "cannot average an empty group of point sources"
  | .region id found expected first =>
    id ++ " has tectonic region type '" ++ found ++ "', expected '" ++ expected ++ "' as in "
      ++ first
  | .scaling id relation expected first =>
    id ++ " uses magnitude scaling relationship " ++ relation.name ++ ", expected "
      ++ expected.name ++ " as in " ++ first
  | .occurrence id tom expected first =>
    id ++ " has temporal occurrence model " ++ occurrenceText tom ++ ", expected "
      ++ occurrenceText expected ++ " as in " ++ first

/-- Why coordinates cannot be binned. -/
def BinningFault.message : BinningFault Float → String
  | .lengths xs ys =>
    "grid binning requires matching coordinate lengths: " ++ toString xs ++ " != " ++ toString ys
  | .spacing deltaX deltaY =>
    "grid binning requires positive finite spacing, got (" ++ shown deltaX ++ ", "
      ++ shown deltaY ++ ")"
  | .coordinates => "grid binning received non-finite coordinates"
  | .tooFine delta span cells =>
    "grid spacing " ++ shown delta ++ " is too small for a span of " ++ shown span ++ ": "
      ++ Double.scientific cells ++ " cells per axis"

/-- The categories of failures. -/
inductive Category where
  | geometry
  | cluster
  | groups
  | configuration
  deriving DecidableEq, Repr

/-- The words in front of a failure's text. -/
def Category.label : Category → String
  | .geometry => "Invalid source geometry: "
  | .cluster => "Inconsistent point-source cluster: "
  | .groups => "Sources from different groups in one batch: "
  | .configuration => "Configuration error: "

/-- The category of what is wrong with a source. -/
def SourceFault.category {α : Type} : SourceFault α → Category
  | .aspectRatio _ | .meshSpacing _ | .recurrence _ | .noRate => .configuration
  | _ => .geometry

/-- What is wrong with a source. -/
def SourceFault.message : SourceFault Float → String
  | .layer lower upper =>
    "lower seismogenic depth " ++ shown lower ++ " must be below upper seismogenic depth "
      ++ shown upper
  | .hypocenter depth upper lower =>
    "hypocenter depth " ++ shown depth ++ " is not between upper (" ++ shown upper
      ++ ") and lower (" ++ shown lower ++ ") seismogenic depths"
  | .elevation upper =>
    "upper seismogenic depth " ++ shown upper
      ++ " must be greater than the maximum elevation on Earth's surface ("
      ++ shown earthElevation ++ " km)"
  | .location => "location must be finite"
  | .plane fault => Category.geometry.label ++ fault.message
  | .aspectRatio value => "rupture aspect ratio must be positive, got " ++ shown value
  | .meshSpacing value => "rupture mesh spacing must be positive, got " ++ shown value
  | .recurrence fault => Category.configuration.label ++ fault.message
  | .noRate => "magnitude-frequency distribution has no non-zero rate"

/-- The category of a failure. -/
def Failure.category {α : Type} : Failure α → Category
  | .plane _ => .geometry
  | .pmf _ | .recurrence _ | .scalingName _ | .binning _ => .configuration
  | .source _ fault => fault.category
  | .cluster _ => .cluster
  | .mixedGroups _ _ => .groups

/-- The text of a failure, after the words for its category. -/
def Failure.detail : Failure Float → String
  | .plane fault => fault.message
  | .pmf fault => fault.message
  | .recurrence fault => fault.message
  | .scalingName name => "Unknown magnitude scaling relationship '" ++ name ++ "'"
  | .source id fault => id ++ ": " ++ fault.message
  | .cluster fault => fault.message
  | .binning fault => fault.message
  | .mixedGroups expected found =>
    "expected grp_id=" ++ toString expected ++ ", found grp_id=" ++ toString found

/-- The text of a failure. -/
def Failure.message (failure : Failure Float) : String :=
  failure.category.label ++ failure.detail

end Seismicity
