import Seismicity.Double.Arithmetic
import Seismicity.Json.Codec
import Seismicity.Source.Cluster

/-!
# Exchange of Geometry

How points, planes, boxes, rings and rupture surfaces are exchanged as JSON.

## Main definitions

* `Exchange.point`, `Exchange.plane`, `Exchange.box`, `Exchange.polygon`,
  `Exchange.surface`, `Exchange.extent`, `Exchange.ruptureInput`,
  `Exchange.averageGeometry`, `Exchange.pmf`: Codecs.
-/

namespace Seismicity

namespace Exchange

open Json

/-- A field that holds a double. -/
def real (name : String) : Fields Float := Fields.field name Codec.real Fields.required

/-- Points. The depth is zero unless it is given. -/
def point : Codec (Point Float) :=
  Codec.record "Point" <|
    ((real "longitude").both ((real "latitude").both
      (Fields.field "depth" Codec.real (Fields.defaulted 0.0)))).via
      (fun (longitude, latitude, depth) =>
        { longitude := longitude, latitude := latitude, depth := depth })
      (fun p => (p.longitude, p.latitude, p.depth))

/-- A field that holds a point. -/
def pointField (name : String) : Fields (Point Float) :=
  Fields.field name point Fields.required

/-- The three angles of a nodal plane. -/
def planeFields : Fields (NodalPlane Float) :=
  ((real "strike").both ((real "dip").both (real "rake"))).via
    (fun (strike, dip, rake) => { strike := strike, dip := dip, rake := rake })
    (fun p => (p.strike, p.dip, p.rake))

/-- Nodal planes. -/
def plane : Codec (NodalPlane Float) := Codec.record "NodalPlane" planeFields

/-- Probability mass functions, as lists of pairs. -/
def pmf {β : Type} (values : Codec β) : Codec (Pmf Float β) :=
  Codec.record "Pmf" <|
    (Fields.field "data" (Codec.list (Codec.pair Codec.real values)) Fields.required).via
      (fun entries => { entries := entries })
      Pmf.entries

/-- Bounding boxes. -/
def box : Codec (BoundingBox Float) :=
  Codec.record "BoundingBox" <|
    ((real "west").both ((real "south").both ((real "east").both (real "north")))).via
      (fun (west, south, east, north) =>
        { west := west, south := south, east := east, north := north })
      (fun b => (b.west, b.south, b.east, b.north))

/-- A field that holds a list of doubles. -/
def reals (name : String) : Fields (List Float) :=
  Fields.field name (Codec.list Codec.real) Fields.required

/-- Rings. -/
def polygon : Codec (Polygon Float) :=
  Codec.record "Polygon" <|
    ((reals "lons").both (reals "lats")).via
      (fun (longitudes, latitudes) => { longitudes := longitudes, latitudes := latitudes })
      (fun p => (p.longitudes, p.latitudes))

/-- What the geometry of a rupture is computed from. -/
def ruptureInput : Codec (RuptureInput Float) :=
  Codec.record "PointSourceInput" <|
    ((real "usd").both ((real "lsd").both ((real "rar").both ((real "mag").both
      ((real "area").both ((real "strike").both ((real "dip").both ((real "rake").both
      ((real "lon").both ((real "lat").both (real "depth"))))))))))).via
      (fun (upper, lower, aspectRatio, magnitude, area, strike, dip, rake, longitude, latitude,
          depth) =>
        { upper := upper, lower := lower, aspectRatio := aspectRatio, magnitude := magnitude
          area := area, strike := strike, dip := dip, rake := rake, longitude := longitude
          latitude := latitude, depth := depth })
      (fun i =>
        (i.upper, i.lower, i.aspectRatio, i.magnitude, i.area, i.strike, i.dip, i.rake,
          i.longitude, i.latitude, i.depth))

/-- Rupture extents. -/
def extent : Codec (Extent Float) :=
  Codec.record "RuptureDimensions" <|
    ((real "length").both ((real "width_horizontal").both (real "width_vertical"))).via
      (fun (length, horizontal, vertical) =>
        { length := length, horizontal := horizontal, vertical := vertical })
      (fun e => (e.length, e.horizontal, e.vertical))

/-- Mean geometries. -/
def averageGeometry : Codec (AverageGeometry Float) :=
  Codec.record "AverageGeometry" <|
    ((real "lon").both ((real "lat").both ((real "dep").both ((real "strike").both
      ((real "dip").both ((real "rake").both ((real "upper_seismogenic_depth").both
      ((real "lower_seismogenic_depth").both (real "rupture_aspect_ratio"))))))))).via
      (fun (longitude, latitude, depth, strike, dip, rake, upper, lower, aspectRatio) =>
        { longitude := longitude, latitude := latitude, depth := depth, strike := strike
          dip := dip, rake := rake, upper := upper, lower := lower, aspectRatio := aspectRatio })
      (fun g =>
        (g.longitude, g.latitude, g.depth, g.strike, g.dip, g.rake, g.upper, g.lower,
          g.aspectRatio))

/-- Rupture surfaces. -/
def surface : Codec (PlanarSurface Float) :=
  Codec.record "PlanarSurface" <|
    ((real "strike").both ((real "dip").both ((pointField "top_left").both
      ((pointField "top_right").both ((pointField "bottom_right").both
      ((pointField "bottom_left").both (pointField "hypocenter"))))))).via
      (fun (strike, dip, topLeft, topRight, bottomRight, bottomLeft, hypocenter) =>
        { strike := strike, dip := dip, topLeft := topLeft, topRight := topRight
          bottomRight := bottomRight, bottomLeft := bottomLeft, hypocenter := hypocenter })
      (fun s =>
        (s.strike, s.dip, s.topLeft, s.topRight, s.bottomRight, s.bottomLeft, s.hypocenter))

end Exchange

end Seismicity
