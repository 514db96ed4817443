/-
# Plain forms

A value without shapes in it: every shape becomes the document of its attributes, a metric its
name, a tuple a list. A number of a shape stays what it is; one that stands for itself and is
not finite becomes null. A geometry in the GeoJSON dialect gets its type beside it, which fails
where it has none. Read back by acceptance, the plain form of a shape is that shape; unlike the
legacy document it keeps the radius in its own metric.

Key definitions: `Value.plain`.
-/
import ShapeCodec.GeoJson.Writer

namespace ShapeCodec

/-- A point as a document of its attributes. -/
def Point.plain (p : Point) : Value := .document [("x", .float p.x), ("y", .float p.y)]

/-- A box as a document of its attributes. -/
def Box.plain (b : Box) : Value :=
  .document [("first", b.first.plain), ("second", b.second.plain)]

/-- A distance as a document of its attributes. -/
def Distance.plain (d : Distance) : Value :=
  .document [("value", .float d.value), ("metric", .text d.metric.name)]

/-- A circle or sphere as a document of its attributes. -/
def CenteredShape.plain (s : CenteredShape) : Value :=
  .document [("center", s.center.plain), ("radius", s.radius.plain)]

/-- A polygon as a document of its attributes. -/
def Polygon.plain (p : Polygon) : Value :=
  .document [("points", .list (p.points.map Point.plain))]

namespace Value

mutual

/-- The plain form of a value. -/
def plain : Value → Except Fault Value
  | float x => .ok (if x.isFinite then float x else null)
  | list items => do
    let items ← plainItems items
    return list items
  | tuple items => do
    let items ← plainItems items
    return list items
  | document fields => do
    let fields ← plainFields fields
    return document fields
  | metric m => .ok (text m.name)
  | point p => .ok p.plain
  | box b => .ok b.plain
  | distance d => .ok d.plain
  | circle c => .ok c.toCenteredShape.plain
  | sphere s => .ok s.toCenteredShape.plain
  | polygon p => .ok p.plain
  | geoJson geometry => do
    let form ← plain geometry
    let type ← geometry.geoJsonType
    return document [("geometry", form), ("type", text type)]
  | geoCommand command shape => do
    let form ← plain shape
    return document [("command", text command), ("shape", form)]
  | foreign className _ => .error (.noPlainForm className)
  | v => .ok v

/-- The plain forms of the items of a list or a tuple. -/
def plainItems : List Value → Except Fault (List Value)
  | [] => .ok []
  | v :: rest => do
    let form ← plain v
    let forms ← plainItems rest
    return form :: forms

/-- The fields of a document in plain form. -/
def plainFields : List (String × Value) → Except Fault (List (String × Value))
  | [] => .ok []
  | (name, v) :: rest => do
    let form ← plain v
    let forms ← plainFields rest
    return (name, form) :: forms

end

end Value

end ShapeCodec
