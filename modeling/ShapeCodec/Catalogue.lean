/-
# The catalogue of conversions

All conversions between shapes and documents, in a fixed order, each with the class of what it
takes and the class of what it makes. A conversion suits a request if the value at hand is an
instance of what it takes, and what it makes is an instance of what is wanted; of several the
first in order is found.

Key definitions: `Class`, `Class.isA`, `Conversion`, `catalogue`, `findConversion?`,
`Conversion.convert?`.
-/
import ShapeCodec.Command
import ShapeCodec.GeoJson.Writer
import ShapeCodec.Shape.Kind

namespace ShapeCodec

/-! ### Classes -/

/-- The classes between which conversions are looked for. -/
inductive Class where
  | point
  | box
  | distance
  | circle
  | sphere
  | polygon
  | geoJson
  | geoCommand
  | document
  | list
  | object
  | text
  | model
  | centeredShape
  | metric
  | orderedDocument
  | mapping
deriving DecidableEq

namespace Class

/-- The name of a class. -/
def name : Class → String
  | point => "Point"
  | box => "Box"
  | distance => "Distance"
  | circle => "Circle"
  | sphere => "Sphere"
  | polygon => "Polygon"
  | geoJson => "GeoJson"
  | geoCommand => "GeoCommand"
  | document => "dict"
  | list => "list"
  | object => "object"
  | text => "str"
  | model => "BaseModel"
  | centeredShape => "CenteredShape"
  | metric => "Metric"
  | orderedDocument => "OrderedDict"
  | mapping => "Mapping"

/-- All classes. -/
def all : List Class :=
  [point, box, distance, circle, sphere, polygon, geoJson, geoCommand, document, list, object,
    text, model, centeredShape, metric, orderedDocument, mapping]

/-- The class of a name. -/
def ofName? (text : String) : Option Class := all.find? fun c => c.name == text

theorem ofName?_name (c : Class) : ofName? c.name = some c := by cases c <;> decide

/-- The classes above a class, itself left out. -/
def ancestors : Class → List Class
  | point | box | distance | polygon | geoJson | geoCommand | centeredShape => [model, object]
  | circle | sphere => [centeredShape, model, object]
  | metric => [text, object]
  | orderedDocument => [document, mapping, object]
  | document => [mapping, object]
  | list | text | model | mapping => [object]
  | object => []

/-- Whether every instance of the first class is one of the second. -/
def isA (c d : Class) : Bool := c == d || c.ancestors.contains d

/-- Acceptance as an instance of a class, for the classes of shapes and their wrappers. -/
def accept? (c : Class) (v : Value) : Option (Verdict Value) :=
  match c with
  | point => some (ShapeKind.point.accept v)
  | box => some (ShapeKind.box.accept v)
  | circle => some (ShapeKind.circle.accept v)
  | sphere => some (ShapeKind.sphere.accept v)
  | polygon => some (ShapeKind.polygon.accept v)
  | distance => some ((Distance.accept v).map Value.distance)
  | geoJson => some (acceptGeoJson v)
  | geoCommand => some ((GeoCommand.accept v).map GeoCommand.toValue)
  | _ => none

end Class

/-! ### Conversions -/

/-- What a conversion does: it reads or writes a shape in its own dialect or in GeoJSON, or it
writes a command. -/
inductive Task where
  | writeShape (kind : ShapeKind)
  | readShape (kind : ShapeKind)
  | writeCommand
  | writeGeoJson
  | readGeoJson
deriving DecidableEq

/-- An entry of the catalogue. -/
structure Conversion where
  name : String
  source : Class
  target : Class
  task : Task
deriving DecidableEq

/-- Whether a conversion reads from documents or writes them. -/
def Conversion.direction (c : Conversion) : String :=
  match c.task with
  | .readShape _ => "read"
  | .readGeoJson => "read"
  | _ => "write"

/-- All conversions, in the order in which they are found. -/
def catalogue : List Conversion :=
  [⟨"box_to_document", .box, .document, .writeShape .box⟩,
    ⟨"polygon_to_document", .polygon, .document, .writeShape .polygon⟩,
    ⟨"circle_to_document", .circle, .document, .writeShape .circle⟩,
    ⟨"sphere_to_document", .sphere, .document, .writeShape .sphere⟩,
    ⟨"document_to_box", .document, .box, .readShape .box⟩,
    ⟨"document_to_polygon", .document, .polygon, .readShape .polygon⟩,
    ⟨"document_to_circle", .document, .circle, .readShape .circle⟩,
    ⟨"document_to_sphere", .document, .sphere, .readShape .sphere⟩,
    ⟨"document_to_point", .document, .point, .readShape .point⟩,
    ⟨"point_to_document", .point, .document, .writeShape .point⟩,
    ⟨"geo_command_to_document", .geoCommand, .document, .writeCommand⟩,
    ⟨"geojson_to_document", .geoJson, .document, .writeGeoJson⟩,
    ⟨"document_to_geojson", .document, .geoJson, .readGeoJson⟩]

/-- The conversion of a name. -/
def Conversion.ofName? (name : String) : Option Conversion :=
  catalogue.find? fun c => c.name == name

/-- The first conversion from instances of one class to instances of another. -/
def findConversion? (source target : Class) : Option Conversion :=
  catalogue.find? fun c => source.isA c.source && c.target.isA target

/-- Applies a conversion to a value, with the notices it gives; null gives null. A writer is
defined only on values of the class it takes. The ends of a polygon share these coordinates. -/
def Conversion.convert? (strict : Bool) (shared : Sharing) (c : Conversion) (v : Value) :
    Option (Except Fault (Value × List Notice)) :=
  match c.task, v with
  | .readShape kind, v => some ((kind.decode v).map (·, []))
  | .readGeoJson, v => some ((decodeGeoJson v).map (·, []))
  | .writeGeoJson, v =>
    some ((encodeGeoJson shared v).map fun d => ((d.map Value.document).getD .null, []))
  | _, .null => some (.ok (.null, []))
  | .writeShape kind, v => (kind.encode? v).map fun d => .ok (.document d, [])
  | .writeCommand, .geoCommand command shape =>
    some ((GeoCommand.encode strict ⟨command, shape⟩).map fun (d, ns) => (.document d, ns))
  | .writeCommand, _ => none

end ShapeCodec
