/-
# Values in messages

How a value is shown inside a message. `Value.literal` shows it so that its kind can be told:
text stands between quotes, a tuple of one item keeps its comma, a shape is its class with its
attributes. `Value.display` is the same but for a text, which is shown bare, a shape, which loses
the name of its class, and a metric, which loses its value.

Two kinds of values cannot be shown. A whole number is not, if it has too many digits. And a
geometry in the GeoJSON dialect is shown with its type, and where it has none it is not shown
either; the type is worked out before the geometry is shown.

Key definitions: `intLiteral`, `Value.literal`, `Value.display`.
-/
import ShapeCodec.GeoJson.Type
import ShapeCodec.Number.Spelling
import ShapeCodec.Text.Joined
import ShapeCodec.Text.Quoted

namespace ShapeCodec

/-- Attributes with their names, in order. -/
abbrev Attributes := List (String × String)

/-- Attributes side by side. -/
def Attributes.write (separator : String) (attributes : Attributes) : String :=
  joined separator (attributes.map fun a => a.1 ++ "=" ++ a.2)

/-- A class and its attributes. -/
def instanceLiteral (className : String) (attributes : Attributes) : String :=
  className ++ "(" ++ Attributes.write ", " attributes ++ ")"

/-- A tuple; one item alone keeps a comma. -/
def tupleLiteral : List String → String
  | [t] => "(" ++ t ++ ",)"
  | ts => "(" ++ joined ", " ts ++ ")"

/-! ### Shapes -/

/-- A point's attributes. -/
def Point.attributes (p : Point) : Attributes :=
  [("x", Spelling.plain.write p.x), ("y", Spelling.plain.write p.y)]

/-- A point as shown inside others. -/
def Point.literal (p : Point) : String := instanceLiteral "Point" p.attributes

/-- A box's attributes. -/
def Box.attributes (b : Box) : Attributes :=
  [("first", b.first.literal), ("second", b.second.literal)]

/-- A metric by its name. -/
def Metric.display (m : Metric) : String := "Metric." ++ m.name

/-- A metric by its name and its value. -/
def Metric.literal (m : Metric) : String := "<" ++ m.display ++ ": " ++ quoted m.name ++ ">"

/-- A distance's attributes. -/
def Distance.attributes (d : Distance) : Attributes :=
  [("value", Spelling.plain.write d.value), ("metric", d.metric.literal)]

/-- The attributes of a circle or a sphere. -/
def CenteredShape.attributes (s : CenteredShape) : Attributes :=
  [("center", s.center.literal), ("radius", instanceLiteral "Distance" s.radius.attributes)]

/-- A polygon's attributes. -/
def Polygon.attributes (p : Polygon) : Attributes :=
  [("points", tupleLiteral (p.points.map Point.literal))]

/-- The attributes of a geometry in the GeoJSON dialect, given the literal of the geometry. -/
def geoJsonAttributes (literal type : String) : Attributes :=
  [("geometry", literal), ("type", quoted type)]

/-- A command's attributes, given the literal of its shape. -/
def geoCommandAttributes (command literal : String) : Attributes :=
  [("command", quoted command), ("shape", literal)]

/-! ### All values -/

/-- A whole number by its digits, if these are not too many. -/
def intLiteral (n : Int) : Except Fault String :=
  if digitCount n.natAbs ≤ digitLimit then .ok (toString n) else .error .tooManyDigits

namespace Value

mutual

/-- A value as shown where its kind matters. -/
def literal : Value → Except Fault String
  | null => .ok "None"
  | bool b => .ok (if b then "True" else "False")
  | int n => intLiteral n
  | float x => .ok (Spelling.plain.write x)
  | text s => .ok (quoted s)
  | list items => do
    let shown ← literals items
    return "[" ++ joined ", " shown ++ "]"
  | tuple items => do
    let shown ← literals items
    return tupleLiteral shown
  | document fields => do
    let shown ← fieldLiterals fields
    return "\x7b" ++ joined ", " shown ++ "\x7d"
  | metric m => .ok m.literal
  | point p => .ok p.literal
  | box b => .ok (instanceLiteral "Box" b.attributes)
  | distance d => .ok (instanceLiteral "Distance" d.attributes)
  | circle c => .ok (instanceLiteral "Circle" c.attributes)
  | sphere s => .ok (instanceLiteral "Sphere" s.attributes)
  | polygon p => .ok (instanceLiteral "Polygon" p.attributes)
  | geoJson geometry => do
    let type ← geometry.geoJsonType
    let shown ← literal geometry
    return instanceLiteral "GeoJson" (geoJsonAttributes shown type)
  | geoCommand command shape => do
    let shown ← literal shape
    return instanceLiteral "GeoCommand" (geoCommandAttributes command shown)
  | foreign className _ => .ok ("<" ++ className ++ " object>")

/-- The items of a list or a tuple, each as shown. -/
def literals : List Value → Except Fault (List String)
  | [] => .ok []
  | v :: rest => do
    let shown ← literal v
    let others ← literals rest
    return shown :: others

/-- The fields of a document, each as shown. -/
def fieldLiterals : List (String × Value) → Except Fault (List String)
  | [] => .ok []
  | (name, v) :: rest => do
    let shown ← literal v
    let others ← fieldLiterals rest
    return (quoted name ++ ": " ++ shown) :: others

end

/-- A value as shown where it stands for its text. -/
def display : Value → Except Fault String
  | text s => .ok s
  | metric m => .ok m.display
  | point p => .ok (Attributes.write " " p.attributes)
  | box b => .ok (Attributes.write " " b.attributes)
  | distance d => .ok (Attributes.write " " d.attributes)
  | circle c => .ok (Attributes.write " " c.attributes)
  | sphere s => .ok (Attributes.write " " s.attributes)
  | polygon p => .ok (Attributes.write " " p.attributes)
  | geoJson geometry => do
    let type ← geometry.geoJsonType
    let shown ← literal geometry
    return Attributes.write " " (geoJsonAttributes shown type)
  | geoCommand command shape => do
    let shown ← literal shape
    return Attributes.write " " (geoCommandAttributes command shown)
  | v => literal v

end Value

end ShapeCodec
