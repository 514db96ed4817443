/-
# Kinds of shapes

The five kinds of shapes that can be asked for by name, and for each kind its acceptance, its
reader and its writer on values of any kind.

Key definitions: `ShapeKind`, `ShapeKind.accept`, `ShapeKind.decode`, `ShapeKind.encode?`.
-/
import ShapeCodec.Shape.Decode
import ShapeCodec.Shape.Encode

namespace ShapeCodec

/-- The kinds of shapes. -/
inductive ShapeKind where
  | point
  | box
  | circle
  | sphere
  | polygon
deriving DecidableEq

namespace ShapeKind

/-- The name of a kind. -/
def name : ShapeKind → String
  | point => "point"
  | box => "box"
  | circle => "circle"
  | sphere => "sphere"
  | polygon => "polygon"

/-- The kind of a name, exact in case. -/
def ofName? : String → Option ShapeKind
  | "point" => some point
  | "box" => some box
  | "circle" => some circle
  | "sphere" => some sphere
  | "polygon" => some polygon
  | _ => none

theorem ofName?_name (kind : ShapeKind) : ofName? kind.name = some kind := by
  cases kind <;> rfl

/-- Acceptance as a shape of a kind. -/
def accept (kind : ShapeKind) (v : Value) : Verdict Value :=
  match kind with
  | point => (Point.accept v).map Value.point
  | box => (Box.accept v).map Value.box
  | circle => (Circle.accept v).map Value.circle
  | sphere => (Sphere.accept v).map Value.sphere
  | polygon => (Polygon.accept v).map Value.polygon

/-- Reads a shape of a kind; null from null. -/
def decode (kind : ShapeKind) (v : Value) : Except Fault Value :=
  match kind with
  | point => (Point.decode v).map fun p => (p.map Value.point).getD .null
  | box => (Box.decode v).map fun b => (b.map Value.box).getD .null
  | circle => (Circle.decode v).map fun c => (c.map Value.circle).getD .null
  | sphere => (Sphere.decode v).map fun s => (s.map Value.sphere).getD .null
  | polygon => (Polygon.decode v).map fun p => (p.map Value.polygon).getD .null

/-- Writes a shape of a kind as its legacy document. Only shapes of that kind have one. -/
def encode? (kind : ShapeKind) (v : Value) : Option Document :=
  match kind, v with
  | point, .point p => some p.encode
  | box, .box b => some b.encode
  | circle, .circle c => some c.encode
  | sphere, .sphere s => some s.encode
  | polygon, .polygon p => some p.encode
  | _, _ => none

end ShapeKind

end ShapeCodec
