/-
# Plain forms read back

The plain form of a shape is accepted as that shape: acceptance reads the attributes that the
plain form holds, a whole document for each part. So the way of a shape through its plain form
changes nothing, not even the radius of a circle, which is kept in its own metric.

Key theorems: `Point.accept_plain`, `Box.accept_plain`, `CenteredShape.acceptFields_plain`,
`Polygon.accept_plain`.
-/
import ShapeCodec.Proofs.Shape.Reading
import ShapeCodec.Value.Plain

namespace ShapeCodec

theorem Point.accept_plain (p : Point) : Point.accept p.plain = .accepted p := by
  have hx : acceptField [("x", .float p.x), ("y", .float p.y)] "x" Value.acceptNumber
      = .accepted p.x := acceptField_eq_accepted.mpr ⟨.float p.x, by simp, rfl⟩
  have hy : acceptField [("x", .float p.x), ("y", .float p.y)] "y" Value.acceptNumber
      = .accepted p.y := acceptField_eq_accepted.mpr ⟨.float p.y, by simp [List.lookup_cons], rfl⟩
  rw [Point.plain, Point.accept, hx, hy]
  rfl

theorem Box.accept_plain (b : Box) : Box.accept b.plain = .accepted b := by
  have hfirst : acceptField [("first", b.first.plain), ("second", b.second.plain)] "first"
      Point.accept = .accepted b.first := acceptField_eq_accepted.mpr ⟨_, by simp, b.first.accept_plain⟩
  have hsecond : acceptField [("first", b.first.plain), ("second", b.second.plain)] "second"
      Point.accept = .accepted b.second :=
    acceptField_eq_accepted.mpr ⟨_, by simp [List.lookup_cons], b.second.accept_plain⟩
  rw [Box.plain, Box.accept, hfirst, hsecond]
  rfl

/-! ### Circles and spheres -/

theorem Metric.accept_name (m : Metric) : Metric.accept (.text m.name) = .accepted m := by
  rw [Metric.accept, Value.metric?, Value.text?, Option.bind_some, Metric.ofName?_name]

theorem Distance.accept_plain (d : Distance) : Distance.accept d.plain = .accepted d := by
  have hvalue : acceptField [("value", .float d.value), ("metric", .text d.metric.name)] "value"
      Value.acceptNumber = .accepted d.value :=
    acceptField_eq_accepted.mpr ⟨.float d.value, by simp, rfl⟩
  have hmetric : Metric.acceptOptional [("value", .float d.value), ("metric", .text d.metric.name)]
      = .accepted d.metric := by
    have hlookup : List.lookup "metric" [("value", Value.float d.value),
        ("metric", .text d.metric.name)] = some (.text d.metric.name) := by
      simp [List.lookup_cons]
    rw [Metric.acceptOptional, hlookup]
    simp only [Metric.accept_name, Verdict.within_accepted]
  rw [Distance.plain, Distance.accept, hvalue, hmetric]
  rfl

theorem Distance.acceptRadius_plain {d : Distance} (h : ¬ d.value < 0) :
    Distance.acceptRadius d.plain = .accepted d := by
  show (Distance.accept d.plain).andThen Distance.asRadius = _
  rw [Distance.accept_plain]
  exact Distance.asRadius_of_not_lt h

theorem CenteredShape.acceptFields_plain {s : CenteredShape} (h : s.Proper) :
    CenteredShape.acceptFields [("center", s.center.plain), ("radius", s.radius.plain)]
      = .accepted s := by
  have hcenter : acceptField [("center", s.center.plain), ("radius", s.radius.plain)] "center"
      Point.accept = .accepted s.center := acceptField_eq_accepted.mpr ⟨_, by simp, s.center.accept_plain⟩
  have hradius : acceptField [("center", s.center.plain), ("radius", s.radius.plain)] "radius"
      Distance.acceptRadius = .accepted s.radius :=
    acceptField_eq_accepted.mpr ⟨_, by simp [List.lookup_cons], Distance.acceptRadius_plain h⟩
  rw [CenteredShape.acceptFields, hcenter, hradius]
  rfl

/-! ### Polygons -/

/-- Plain points are accepted in their order, wherever in a row they stand. -/
theorem acceptPoints_plain : ∀ (points : List Point) (position : Nat),
    acceptPoints position (points.map Point.plain) = some (points, [])
  | [], _ => rfl
  | p :: rest, position => by
    rw [List.map_cons, acceptPoints, acceptPoints_plain rest (position + 1), Point.accept_plain]
    rfl

theorem Polygon.accept_plain {q : Polygon} (h : q.Bounded) :
    Polygon.accept q.plain = .accepted q := by
  have helements : Polygon.acceptElements (q.points.map Point.plain) = .accepted q := by
    rw [Polygon.acceptElements, acceptPoints_plain]
    simp only [List.isEmpty_iff, if_neg h, if_true]
  rw [Polygon.plain, Polygon.accept]
  exact acceptField_eq_accepted.mpr ⟨.list (q.points.map Point.plain), by simp, helements⟩

end ShapeCodec
