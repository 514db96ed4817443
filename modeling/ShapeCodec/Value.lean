/-
# Values

Everything that can be handed to a reader or a writer. Most of it is plain data: nothing, truth
values, whole numbers of any size, doubles, text, lists, tuples, and documents, which are fields
in order, each name once. Beside these stand metrics, which can do as the text of their name, the
shapes themselves, the two wrappers around a value (`geoJson`, `geoCommand`), and objects of
classes this library does not know, of which only the attributes are seen.

Key definitions: `Value`, `Value.typeName`, `Value.text?`, `Value.metric?`, `Value.items?`,
`Value.elements?`, `Value.members?`, `Value.row?`, `putField`.
-/
import ShapeCodec.Shape

namespace ShapeCodec

/-- A value of any kind. -/
inductive Value where
  | null
  | bool (b : Bool)
  | int (n : Int)
  | float (x : Float)
  | text (s : String)
  | list (items : List Value)
  | tuple (items : List Value)
  | document (fields : List (String × Value))
  | metric (m : Metric)
  | point (p : Point)
  | box (b : Box)
  | distance (d : Distance)
  | circle (c : Circle)
  | sphere (s : Sphere)
  | polygon (p : Polygon)
  /-- A geometry in the GeoJSON dialect; the geometry is any value. -/
  | geoJson (geometry : Value)
  /-- A query operator applied to a shape; the shape is any value. -/
  | geoCommand (command : String) (shape : Value)
  /-- An object of another class, by the name of the class and its attributes. -/
  | foreign (className : String) (attributes : List (String × Value))

instance : Inhabited Value := ⟨.null⟩

/-- The fields of a document, in order, each name once. -/
abbrev Document := List (String × Value)

/-- Replaces the field of a name where it stands, or adds it at the end. -/
def putField (name : String) (value : Value) : Document → Document
  | [] => [(name, value)]
  | field :: rest =>
    if field.1 = name then (name, value) :: rest else field :: putField name value rest

theorem lookup_putField_self (name : String) (v : Value) (fields : Document) :
    (putField name v fields).lookup name = some v := by
  induction fields with
  | nil => simp [putField]
  | cons field rest ih =>
    obtain ⟨k, w⟩ := field
    by_cases h : k = name
    · simp [putField, h]
    · simpa [putField, h, List.lookup_cons, beq_eq_false_iff_ne.mpr (Ne.symm h)] using ih

theorem lookup_putField_of_ne {name other : String} (h : other ≠ name) (v : Value)
    (fields : Document) : (putField name v fields).lookup other = fields.lookup other := by
  have hne := beq_eq_false_iff_ne.mpr h
  induction fields with
  | nil => simp [putField, List.lookup_cons, hne]
  | cons field rest ih =>
    obtain ⟨k, w⟩ := field
    by_cases hk : k = name
    · simp [putField, hk, List.lookup_cons, hne]
    · simp [putField, hk, List.lookup_cons, ih]

namespace Value

/-- The name by which messages call the kind of a value. -/
def typeName : Value → String
  | null => "NoneType"
  | bool _ => "bool"
  | int _ => "int"
  | float _ => "float"
  | text _ => "str"
  | list _ => "list"
  | tuple _ => "tuple"
  | document _ => "dict"
  | metric _ => "Metric"
  | point _ => "Point"
  | box _ => "Box"
  | distance _ => "Distance"
  | circle _ => "Circle"
  | sphere _ => "Sphere"
  | polygon _ => "Polygon"
  | geoJson _ => "GeoJson"
  | geoCommand _ _ => "GeoCommand"
  | foreign className _ => className

/-- The text that a value is or, if it is a metric, can do as. -/
def text? : Value → Option String
  | text s => some s
  | metric m => some m.name
  | _ => none

/-- The metric that a value is or names. -/
def metric? (v : Value) : Option Metric := v.text?.bind Metric.ofName?

/-- The items of a list or a tuple. -/
def items? : Value → Option (List Value)
  | list items => some items
  | tuple items => some items
  | _ => none

/-- A named part, as a pair of the name and the part. -/
def named (name : String) (part : Value) : Value := tuple [text name, part]

/-- The parts of a circle or a sphere, each with its name. -/
def centeredParts (s : CenteredShape) : List Value :=
  [named "center" (point s.center), named "radius" (distance s.radius)]

/-- The characters of a text, each as a text. -/
def characters (s : String) : List Value := s.toList.map fun c => text (String.singleton c)

/-- What a value yields one by one: a list or tuple its items, a text its characters, a document
its names, a shape or a wrapper its parts with their names. -/
def elements? : Value → Option (List Value)
  | list items => some items
  | tuple items => some items
  | text s => some (characters s)
  | metric m => some (characters m.name)
  | document fields => some (fields.map fun field => text field.1)
  | point p => some [named "x" (float p.x), named "y" (float p.y)]
  | box b => some [named "first" (point b.first), named "second" (point b.second)]
  | distance d => some [named "value" (float d.value), named "metric" (metric d.metric)]
  | circle c => some (centeredParts c.toCenteredShape)
  | sphere s => some (centeredParts s.toCenteredShape)
  | polygon p => some [named "points" (tuple (p.points.map point))]
  | geoJson geometry => some [named "geometry" geometry]
  | geoCommand command shape => some [named "command" (text command), named "shape" shape]
  | _ => none

/-- What a value holds, where it has a size: a list or tuple its items, a text its characters. -/
def members? (v : Value) : Option (List Value) :=
  match v.items? with
  | some items => some items
  | none => v.text?.map characters

/-- What a value yields one by one where a text or a document is not taken for a row. -/
def row? : Value → Option (List Value)
  | text _ => none
  | metric _ => none
  | document _ => none
  | v => v.elements?

/-- Whether a value is exactly the given text. -/
def isText (s : String) (v : Value) : Bool := v.text? == some s

end Value

/-- Whether a document says of itself that it is of the given type. -/
def hasType (fields : Document) (type : String) : Bool :=
  ((fields.lookup "type").map (Value.isText type)).getD false

end ShapeCodec
