/-
# Writing GeoJSON

A geometry is written as a document of its type and its coordinates. A box becomes the closed
ring around it. The ring of a polygon is closed if it is open, by its first point. Whether it is
open can depend on the coordinates that its two ends share. An object that knows its type and
coordinates is written with these, whatever they are.

Key definitions: `encodeGeometry`, `encodeGeoJson`.
-/
import ShapeCodec.GeoJson.Reader

namespace ShapeCodec

/-- A GeoJSON document. -/
def geoJsonDocument (type : String) (coordinates : Value) : Document :=
  [("type", .text type), ("coordinates", coordinates)]

/-- Writes a raw pair as a GeoJSON point. -/
def encodeRawPair : List Value → Except Fault Document
  | [x, y] => do
    let p ← (Point.ofCoordinates x y).orUnusable "GeoJson point"
    return geoJsonDocument "Point" p.pair
  | _ => .error (.unusableArgument .notAPair)

/-- Writes a geometry that is not wrapped. A polygon has two ends, which share these coordinates. -/
def encodeGeometry (shared : Sharing) : Value → Except Fault Document
  | .point p => .ok (geoJsonDocument "Point" p.pair)
  | .list items => encodeRawPair items
  | .tuple items => encodeRawPair items
  | .box b => .ok (geoJsonDocument "Polygon" (ringCoordinates b.ring))
  | .polygon p =>
    match p.closed shared with
    | some ring => .ok (geoJsonDocument "Polygon" (ringCoordinates ring))
    | none => .error .emptyPolygon
  | .foreign className attributes =>
    match typeAndCoordinates? attributes with
    | some (type, coordinates) => .ok (geoJsonDocument type coordinates)
    | none => .error (.unusableArgument (.unknownType className))
  | v => .error (.unusableArgument (.unknownType v.typeName))

/-- Writes a geometry, bare or in one wrapper. From null nothing is written. -/
def encodeGeoJson (shared : Sharing) : Value → Except Fault (Option Document)
  | .null => .ok none
  | .geoJson geometry => (encodeGeometry shared geometry).map some
  | v => (encodeGeometry shared v).map some

end ShapeCodec
