/-
# Acceptance of shapes

A value is accepted as a shape if it is one already, and then it is kept as it is, or if it is a
document whose fields are accepted for the parts of the shape. Fields that are not asked for are
passed over. A whole number stands for the double nearest to it; a truth value is not a number.

Key definitions: `Value.acceptNumber`, `Point.accept`, `Box.accept`, `Distance.accept`,
`Circle.accept`, `Sphere.accept`, `Polygon.accept`, `Point.ofCoordinates`, `Polygon.ofPoints`,
`CenteredShape.ofParts`.
-/
import ShapeCodec.Number.Binary
import ShapeCodec.Value
import ShapeCodec.Verdict

namespace ShapeCodec

/-- A coordinate or a distance. -/
def Value.acceptNumber : Value → Verdict Float
  | .float x => .accepted x
  | .int n =>
    match floatOfInt? n with
    | some x => .accepted x
    | none => .overflow
  | _ => .refuse .notANumber

/-- A field that must be there. -/
def acceptField {α : Type} (fields : Document) (name : String) (accept : Value → Verdict α) :
    Verdict α :=
  match fields.lookup name with
  | some v => (accept v).within name
  | none => .refused [⟨[name], .missing⟩]

/-! ### Points and boxes -/

/-- A point of two coordinates. -/
def Point.ofCoordinates (x y : Value) : Verdict Point :=
  ((x.acceptNumber.within "x").both (y.acceptNumber.within "y")).map fun (x, y) => ⟨x, y⟩

/-- Acceptance as a point. -/
def Point.accept : Value → Verdict Point
  | .point p => .accepted p
  | .document fields =>
    ((acceptField fields "x" Value.acceptNumber).both
      (acceptField fields "y" Value.acceptNumber)).map fun (x, y) => ⟨x, y⟩
  | _ => .refuse (.notAnInstance "Point")

/-- Acceptance as a box. -/
def Box.accept : Value → Verdict Box
  | .box b => .accepted b
  | .document fields =>
    ((acceptField fields "first" Point.accept).both
      (acceptField fields "second" Point.accept)).map fun (first, second) => ⟨first, second⟩
  | _ => .refuse (.notAnInstance "Box")

/-! ### Distances -/

/-- Acceptance as a metric: a text that is exactly its name. -/
def Metric.accept (v : Value) : Verdict Metric :=
  match v.metric? with
  | some m => .accepted m
  | none => .refuse .notAMetric

/-- The metric of a distance, neutral where none is given. -/
def Metric.acceptOptional (fields : Document) : Verdict Metric :=
  match fields.lookup "metric" with
  | some v => (Metric.accept v).within "metric"
  | none => .accepted .neutral

/-- Acceptance as a distance. -/
def Distance.accept : Value → Verdict Distance
  | .distance d => .accepted d
  | .document fields =>
    ((acceptField fields "value" Value.acceptNumber).both
      (Metric.acceptOptional fields)).map fun (value, metric) => ⟨value, metric⟩
  | _ => .refuse (.notAnInstance "Distance")

/-- A neutral distance of a number. -/
def Distance.ofNumber (v : Value) : Verdict Distance :=
  (v.acceptNumber.within "value").map fun value => ⟨value, .neutral⟩

/-! ### Circles and spheres -/

/-- A radius that is not negative. -/
def Distance.asRadius (d : Distance) : Verdict Distance :=
  if d.value < 0 then .refuse .negativeRadius else .accepted d

/-- Acceptance as a radius: a bare number is a neutral distance. -/
def Distance.acceptRadius : Value → Verdict Distance
  | .int n => (Distance.ofNumber (.int n)).andThen Distance.asRadius
  | .float x => (Distance.ofNumber (.float x)).andThen Distance.asRadius
  | v => (Distance.accept v).andThen Distance.asRadius

/-- A circle or sphere of its two parts. -/
def CenteredShape.ofParts (center : Point) (radius : Distance) : Verdict CenteredShape :=
  (radius.asRadius.within "radius").map fun radius => ⟨center, radius⟩

/-- Acceptance of the fields of a circle or a sphere. -/
def CenteredShape.acceptFields (fields : Document) : Verdict CenteredShape :=
  ((acceptField fields "center" Point.accept).both
    (acceptField fields "radius" Distance.acceptRadius)).map
      fun (center, radius) => ⟨center, radius⟩

/-- Acceptance as a circle. -/
def Circle.accept : Value → Verdict Circle
  | .circle c => .accepted c
  | .document fields => (CenteredShape.acceptFields fields).map Circle.mk
  | _ => .refuse (.notAnInstance "Circle")

/-- Acceptance as a sphere. -/
def Sphere.accept : Value → Verdict Sphere
  | .sphere s => .accepted s
  | .document fields => (CenteredShape.acceptFields fields).map Sphere.mk
  | _ => .refuse (.notAnInstance "Sphere")

/-! ### Polygons

The elements are checked one by one. The points that were accepted are counted even if others
were not, because having no point at all is one more problem. -/

/-- The accepted elements and the complaints about the others, from the given position on;
nothing in case of an overflow. -/
def acceptPoints (position : Nat) : List Value → Option (List Point × List Complaint)
  | [] => some ([], [])
  | v :: rest =>
    match (Point.accept v).within (toString position), acceptPoints (position + 1) rest with
    | .overflow, _ => none
    | _, none => none
    | .accepted p, some (points, complaints) => some (p :: points, complaints)
    | .refused cs, some (points, complaints) => some (points, cs ++ complaints)

/-- A polygon of its points. -/
def Polygon.ofPoints (points : List Point) : Verdict Polygon :=
  if points.isEmpty then (Verdict.refuse .noPoints).within "points" else .accepted ⟨points⟩

/-- Acceptance of the elements of a polygon. -/
def Polygon.acceptElements (elements : List Value) : Verdict Polygon :=
  match acceptPoints 0 elements with
  | none => .overflow
  | some (points, complaints) =>
    if points.isEmpty then .refused (complaints ++ [⟨[], .noPoints⟩])
    else if complaints.isEmpty then .accepted ⟨points⟩
    else .refused complaints

/-- Acceptance as a polygon. -/
def Polygon.accept : Value → Verdict Polygon
  | .polygon p => .accepted p
  | .document fields =>
    acceptField fields "points" fun v =>
      match v.row? with
      | some elements => Polygon.acceptElements elements
      | none => .refuse .notATuple
  | _ => .refuse (.notAnInstance "Polygon")

end ShapeCodec
