/-
# The GeoJSON type of a value

Points and raw pairs are written as a GeoJSON point, boxes and polygons as a GeoJSON polygon.
An object that names its type in text and has coordinates is taken at its word. No other value
has a GeoJSON type.

Key definitions: `Value.geoJsonType?`, `Value.geoJsonType`, `typeAndCoordinates?`.
-/
import ShapeCodec.Fault
import ShapeCodec.Value

namespace ShapeCodec

/-- The type and the coordinates that an object has of itself. -/
def typeAndCoordinates? (attributes : Document) : Option (String × Value) :=
  match (attributes.lookup "type").bind Value.text?, attributes.lookup "coordinates" with
  | some type, some coordinates => some (type, coordinates)
  | _, _ => none

/-- The GeoJSON type as which a geometry is written. -/
def Value.geoJsonType? : Value → Option String
  | .point _ => some "Point"
  | .list _ => some "Point"
  | .tuple _ => some "Point"
  | .box _ => some "Polygon"
  | .polygon _ => some "Polygon"
  | .foreign _ attributes => (typeAndCoordinates? attributes).map Prod.fst
  | _ => none

/-- The GeoJSON type of a value, or the fault that it has none. -/
def Value.geoJsonType (v : Value) : Except Fault String :=
  match v.geoJsonType? with
  | some type => .ok type
  | none => .error (.unusableArgument (.unknownType v.typeName))

end ShapeCodec
