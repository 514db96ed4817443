/-
# Shapes

The shapes that are read and written: points, boxes, circles, spheres and polygons, and the
distances that circles and spheres have for a radius. The types hold any numbers and any list
of points; which of their values are good ones is said by the predicates `Polygon.Bounded` and
`CenteredShape.Proper`.

Shapes are compared field by field, as doubles compare: both zeros are equal, and a value that
is not a number equals nothing, itself included. Two points of one polygon can hold the very same
object for a coordinate, though, and then the object is taken for equal to itself, whatever it
holds. The numbers do not tell which coordinates are shared in this way, so it is said beside them
(`Sharing`) where it counts, at the two ends of a walk.

Key definitions: `Point`, `Box`, `Distance`, `Circle`, `Sphere`, `Polygon`, `Sharing`,
`Distance.inMetric`, `Box.ring`, `Point.meets`, `Polygon.closed`.
-/
import ShapeCodec.Metric

namespace ShapeCodec

/-- A point of the plane. -/
structure Point where
  x : Float
  y : Float

/-- The rectangle with sides along the axes that two opposite corners span. -/
structure Box where
  first : Point
  second : Point

/-- A distance and the metric it is expressed in. -/
structure Distance where
  value : Float
  metric : Metric

/-- What circles and spheres have in common. -/
structure CenteredShape where
  center : Point
  radius : Distance

/-- A circle in the plane. -/
structure Circle extends CenteredShape

/-- A circle on the surface of the earth. -/
structure Sphere extends CenteredShape

/-- A polygon, by the points of its boundary in walking order. -/
structure Polygon where
  points : List Point

/-! ### Comparison -/

instance : BEq Point := ⟨fun p q => p.x == q.x && p.y == q.y⟩

instance : BEq Box := ⟨fun a b => a.first == b.first && a.second == b.second⟩

instance : BEq Distance := ⟨fun d e => d.value == e.value && d.metric == e.metric⟩

instance : BEq CenteredShape := ⟨fun s t => s.center == t.center && s.radius == t.radius⟩

instance : BEq Circle := ⟨fun s t => s.toCenteredShape == t.toCenteredShape⟩

instance : BEq Sphere := ⟨fun s t => s.toCenteredShape == t.toCenteredShape⟩

instance : BEq Polygon := ⟨fun p q => p.points == q.points⟩

/-! ### Distances -/

/-- The distance in radians. -/
def Distance.normalized (d : Distance) : Float := d.value / d.metric.multiplier

/-- The distance in another metric, through radians. In its own metric it stays as it is, so
that its value is not rounded twice. -/
def Distance.inMetric (d : Distance) (m : Metric) : Distance :=
  if m = d.metric then d else ⟨d.normalized * m.multiplier, m⟩

/-- A radius is not below zero. Zero of either sign is not, and neither is a value that is not
a number. -/
def CenteredShape.Proper (s : CenteredShape) : Prop := ¬ s.radius.value < 0

/-! ### Rings -/

/-- The closed walk around a box, from its first corner through the second and back. -/
def Box.ring (b : Box) : List Point :=
  [b.first, ⟨b.first.x, b.second.y⟩, b.second, ⟨b.second.x, b.first.y⟩, b.first]

/-- A polygon has a boundary. -/
def Polygon.Bounded (p : Polygon) : Prop := p.points ≠ []

/-- Which coordinates two points hold as one object. It makes a difference only to what is not a
number. -/
structure Sharing where
  x : Bool
  y : Bool

/-- Two points without a common object. -/
def Sharing.none : Sharing := ⟨false, false⟩

/-- Two points with both objects in common. -/
def Sharing.all : Sharing := ⟨true, true⟩

/-- Whether two coordinates are taken for equal. What is not a number differs from all but the very
same object. -/
def sameCoordinate (shared : Bool) (a b : Float) : Bool :=
  a == b || (shared && a.isNaN && b.isNaN)

/-- Whether two points of a walk are taken for equal. -/
def Point.meets (shared : Sharing) (p q : Point) : Bool :=
  sameCoordinate shared.x p.x q.x && sameCoordinate shared.y p.y q.y

/-- Whether a walk from `first` through `rest` ends where it began. A walk of one point
does, whatever the point. -/
def endsAt (shared : Sharing) (first : Point) (rest : List Point) : Bool :=
  match rest.getLast? with
  | none => true
  | some last => first.meets shared last

/-- The boundary as a closed walk, for a polygon whose two ends share these coordinates: an open
one is led back to its first point. There is none without a point. -/
def Polygon.closed (shared : Sharing) (p : Polygon) : Option (List Point) :=
  match p.points with
  | [] => none
  | first :: rest => some (if endsAt shared first rest then p.points else p.points ++ [first])

end ShapeCodec
