/-
# Reading GeoJSON

A GeoJSON document names its type and has coordinates: a pair for a point, a row of rings for a
polygon, of which only the first is read. What is read is a point or a polygon and nothing else,
although the dialect's wrapper can hold any value.

Key definitions: `Geometry`, `Point.ofGeoJson`, `Polygon.ofGeoJson`, `Geometry.decode`,
`decodeGeoJson`, `acceptGeoJson`.
-/
import ShapeCodec.Shape.Coordinates
import ShapeCodec.Value.Literal

namespace ShapeCodec

/-- The geometries that are read from GeoJSON. -/
inductive Geometry where
  | point (p : Point)
  | polygon (p : Polygon)

/-- A geometry as a value. -/
def Geometry.toValue : Geometry → Value
  | point p => .point p
  | polygon p => .polygon p

/-- The items of the coordinates of a document, if these are a list or a tuple. -/
def coordinateItems? (fields : Document) : Option (List Value) :=
  (fields.lookup "coordinates").bind Value.items?

/-- Reads the coordinates of a document as a point. -/
def Point.ofGeoJson (fields : Document) : Except Fault Point :=
  match coordinateItems? fields with
  | some [x, y] => (Point.ofCoordinates x y).orUnusable "GeoJson point"
  | _ => .error (.unusableArgument .notAPair)

/-- Reads the first ring of the coordinates of a document as a polygon. -/
def Polygon.ofGeoJson (fields : Document) : Except Fault Polygon :=
  match coordinateItems? fields with
  | some (ring :: _) =>
    match ring.items? with
    | some elements => do
      let points ← readRing elements
      (Polygon.ofPoints points).orUnusable "GeoJson polygon"
    | none => .error (.unusableArgument .ringNotAList)
  | _ => .error (.unusableArgument .noRing)

/-- Reads the fields of a GeoJSON document as a geometry of a type. -/
def Geometry.ofType (type : String) (fields : Document) : Except Fault Geometry :=
  if type = "Point" then (Point.ofGeoJson fields).map Geometry.point
  else if type = "Polygon" then (Polygon.ofGeoJson fields).map Geometry.polygon
  else .error (.unusableArgument (.unknownType type))

/-- Reads the fields of a GeoJSON document. The type goes by its text. -/
def Geometry.ofFields (fields : Document) : Except Fault Geometry :=
  match fields.lookup "type" with
  | none => .error (.unusableArgument .noType)
  | some type => do
    let name ← type.display
    Geometry.ofType name fields

/-- Reads a GeoJSON document. Nothing is read from null. -/
def Geometry.decode : Value → Except Fault (Option Geometry)
  | .null => .ok none
  | .document fields => (Geometry.ofFields fields).map some
  | v => .error (.unusableArgument (.notADocument v.typeName))

/-- Reads a GeoJSON document as a wrapped geometry; null from null. -/
def decodeGeoJson (v : Value) : Except Fault Value :=
  (Geometry.decode v).map fun
    | some g => .geoJson g.toValue
    | none => .null

/-- Acceptance as a wrapped geometry, which may be any value. -/
def acceptGeoJson : Value → Verdict Value
  | .geoJson geometry => .accepted (.geoJson geometry)
  | .document fields => (acceptField fields "geometry" Verdict.accepted).map Value.geoJson
  | _ => .refuse (.notAnInstance "GeoJson")

end ShapeCodec
