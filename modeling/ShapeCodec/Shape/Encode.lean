/-
# Shapes as legacy documents

Every shape has a document with a field for each of its parts. A circle or sphere is stored with
its radius in radians and the name of its metric.

Key definitions: `Point.encode`, `Box.encode`, `Circle.encode`, `Sphere.encode`,
`Polygon.encode`.
-/
import ShapeCodec.Value

namespace ShapeCodec

/-- A point as a document. -/
def Point.encode (p : Point) : Document := [("x", .float p.x), ("y", .float p.y)]

/-- A box as a document of its corners. -/
def Box.encode (b : Box) : Document :=
  [("first", .document b.first.encode), ("second", .document b.second.encode)]

/-- A circle or sphere as a document. -/
def CenteredShape.encode (s : CenteredShape) : Document :=
  [("center", .document s.center.encode),
    ("radius", .float s.radius.normalized),
    ("metric", .text s.radius.metric.name)]

/-- A circle as a document. -/
def Circle.encode (c : Circle) : Document := c.toCenteredShape.encode

/-- A sphere as a document. -/
def Sphere.encode (s : Sphere) : Document := s.toCenteredShape.encode

/-- A polygon as a document of its points. -/
def Polygon.encode (p : Polygon) : Document :=
  [("points", .list (p.points.map fun q => .document q.encode))]

end ShapeCodec
