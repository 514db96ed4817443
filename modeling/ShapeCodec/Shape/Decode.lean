/-
# Shapes from documents

A shape is read from its legacy document or, where it has one, from its GeoJSON document; the
field `type` tells which. Wherever a point is expected, a pair will do as well. Reading stops at
the first fault. Nothing is read from null.

Key definitions: `Point.decode`, `readPoints`, `Metric.resolve`, `Box.decode`, `Circle.decode`,
`Sphere.decode`, `Polygon.decode`.
-/
import ShapeCodec.GeoJson.Reader

namespace ShapeCodec

/-! ### Points -/

/-- Reads a document as a point, in the dialect that its type tells. -/
def Point.ofDocument (fields : Document) : Except Fault Point :=
  if hasType fields "Point" then Point.ofGeoJson fields else Point.ofFields fields

/-- Reads a point from anything but null. -/
def Point.ofValue (v : Value) : Except Fault Point :=
  match v.items? with
  | some _ => Point.ofPair v
  | none =>
    match v with
    | .document fields => Point.ofDocument fields
    | _ => .error (.malformedShape (.notADocument "point" v.typeName))

/-- Reads a point. -/
def Point.decode : Value → Except Fault (Option Point)
  | .null => .ok none
  | v => (Point.ofValue v).map some

/-- Reads an element of a row of points. -/
def Point.ofElement : Value → Except Fault Point
  | .null => .error (.malformedShape .nullElement)
  | v => Point.ofValue v

/-- Reads a row of points in order, as far as the first fault. -/
def readPoints : List Value → Except Fault (List Point)
  | [] => .ok []
  | v :: rest => do
    let p ← Point.ofElement v
    let points ← readPoints rest
    return p :: points

/-- Reads a field of a document as a point, or nothing where it is absent or null. -/
def pointField (fields : Document) (name : String) : Except Fault (Option Point) :=
  Point.decode ((fields.lookup name).getD .null)

/-- The part of a shape that has been read, which must be there. -/
def present {α : Type} (part : String) : Option α → Except Fault α
  | some a => .ok a
  | none => .error (.malformedShape (.nullPart part))

/-! ### Boxes and polygons -/

/-- The box that a ring around it tells: its corners are the first and the third point. -/
def Box.ofRing : List Point → Except Fault Box
  | first :: _ :: second :: _ => .ok ⟨first, second⟩
  | _ => .error (.malformedShape .ringTooShort)

/-- Reads a document as a box, in the dialect that its type tells. Both corners are read before
one is missed. -/
def Box.ofDocument (fields : Document) : Except Fault Box :=
  if hasType fields "Polygon" then do
    let p ← Polygon.ofGeoJson fields
    Box.ofRing p.points
  else do
    let first ← pointField fields "first"
    let second ← pointField fields "second"
    let first ← present "First corner" first
    let second ← present "Second corner" second
    return ⟨first, second⟩

/-- Reads a box. -/
def Box.decode : Value → Except Fault (Option Box)
  | .null => .ok none
  | .document fields => (Box.ofDocument fields).map some
  | v => .error (.malformedShape (.notADocument "box" v.typeName))

/-- Reads the points of a legacy document. -/
def Polygon.ofPointsField (fields : Document) : Except Fault Polygon :=
  match (fields.lookup "points").getD .null with
  | .null => .error (.malformedShape (.nullPart "Points"))
  | v =>
    match v.items? with
    | some elements => do
      let points ← readPoints elements
      (Polygon.ofPoints points).orMalformed "polygon"
    | none => .error (.malformedShape .pointsNotAList)

/-- Reads a document as a polygon, in the dialect that its type tells. -/
def Polygon.ofDocument (fields : Document) : Except Fault Polygon :=
  if hasType fields "Polygon" then Polygon.ofGeoJson fields else Polygon.ofPointsField fields

/-- Reads a polygon. -/
def Polygon.decode : Value → Except Fault (Option Polygon)
  | .null => .ok none
  | .document fields => (Polygon.ofDocument fields).map some
  | v => .error (.malformedShape (.notADocument "polygon" v.typeName))

/-! ### Circles and spheres -/

/-- The metric that a value names. A value that names none is shown in the fault, which fails
where it cannot be shown. -/
def Metric.resolve (v : Value) : Except Fault Metric :=
  match v.metric? with
  | some m => .ok m
  | none => do
    let shown ← v.literal
    .error (.unknownMetric shown)

/-- Expresses a radius in the metric that a document names, if it names one. -/
def radiusInMetric (fields : Document) (radius : Distance) : Except Fault Distance :=
  match fields.lookup "metric" with
  | none => .ok radius
  | some .null => .error (.malformedShape (.nullPart "Metric"))
  | some name => (Metric.resolve name).map radius.inMetric

/-- A field of a document that must be there and not null. -/
def requiredField (fields : Document) (name part : String) : Except Fault Value :=
  match (fields.lookup name).getD .null with
  | .null => .error (.malformedShape (.nullPart part))
  | v => .ok v

/-- Reads the parts of a circle or sphere. The radius is read before the center, and a radius
is in radians whatever the metric. -/
def CenteredShape.ofDocument (kind : String) (fields : Document) : Except Fault CenteredShape := do
  let center ← requiredField fields "center" "Center"
  let radius ← requiredField fields "radius" "Radius"
  let distance ← (Distance.ofNumber radius).orMalformed (kind ++ " radius")
  let distance ← radiusInMetric fields distance
  let center ← Point.ofValue center
  (CenteredShape.ofParts center distance).orMalformed kind

/-- Reads a circle. -/
def Circle.decode : Value → Except Fault (Option Circle)
  | .null => .ok none
  | .document fields => (CenteredShape.ofDocument "circle" fields).map fun s => some ⟨s⟩
  | v => .error (.malformedShape (.notADocument "circle" v.typeName))

/-- Reads a sphere. -/
def Sphere.decode : Value → Except Fault (Option Sphere)
  | .null => .ok none
  | .document fields => (CenteredShape.ofDocument "sphere" fields).map fun s => some ⟨s⟩
  | v => .error (.malformedShape (.notADocument "sphere" v.typeName))

end ShapeCodec
