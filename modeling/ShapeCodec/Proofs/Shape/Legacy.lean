/-
# Legacy documents read back

Every shape is read back from its legacy document. Points, boxes and polygons come back as they
were, down to the sign of a zero and to what is no number. A circle or a sphere comes back with
its center and its metric; its radius was stored in radians, so in kilometers and in miles it
went through a division and a multiplication on the way, while in radians it is untouched.

Acceptance and reading agree on which radii are admitted: exactly the shapes with a proper
radius are ever accepted (`CenteredShape.proper_iff`), and each of them survives the way through
its document, because neither step leads a radius below zero.

Key definitions: `Distance.restored`, `CenteredShape.restored`.
Key theorems: `CenteredShape.proper_iff`, `CenteredShape.ofDocument_encode`,
`decode_encode_legacy`.
-/
import ShapeCodec.Proofs.Double.Arithmetic
import ShapeCodec.Proofs.Shape.Reading

namespace ShapeCodec

/-! ### The way of a radius -/

/-- The distance after it was stored in radians and expressed in its metric again. -/
def Distance.restored (d : Distance) : Distance :=
  match d.metric with
  | .neutral => d
  | m => ⟨d.value / m.multiplier * m.multiplier, m⟩

/-- The circle or sphere after the way through its document. -/
def CenteredShape.restored (s : CenteredShape) : CenteredShape := ⟨s.center, s.radius.restored⟩

theorem Distance.inMetric_normalized (d : Distance) :
    (⟨d.normalized, .neutral⟩ : Distance).inMetric d.metric = d.restored := by
  obtain ⟨x, m⟩ := d
  cases m
  · show (⟨x / Metric.kilometers.multiplier / 1.0 * _, _⟩ : Distance) = _
    rw [Double.div_one]
    rfl
  · show (⟨x / Metric.miles.multiplier / 1.0 * _, _⟩ : Distance) = _
    rw [Double.div_one]
    rfl
  · show (⟨x / 1.0, .neutral⟩ : Distance) = ⟨x, .neutral⟩
    rw [Double.div_one]

theorem Distance.restored_not_lt {d : Distance} (h : ¬ d.value < 0) : ¬ d.restored.value < 0 := by
  have hstored : ∀ m : Metric, ¬ d.value / m.multiplier * m.multiplier < 0 := fun m =>
    Double.mul_not_lt (Double.div_not_lt h m.multiplier_pos) m.multiplier_pos
  unfold Distance.restored
  split
  · exact h
  · exact hstored _

/-! ### Circles and spheres -/

/-- **Acceptance admits the proper shapes and no others.** -/
theorem CenteredShape.proper_iff (s : CenteredShape) :
    s.Proper ↔ ∃ fields, CenteredShape.acceptFields fields = .accepted s := by
  constructor
  · intro h
    refine ⟨[("center", .point s.center), ("radius", .distance s.radius)], ?_⟩
    show ((Verdict.accepted s.center).both (s.radius.asRadius.within "radius")).map _ = _
    rw [Distance.asRadius_of_not_lt h]
    rfl
  · rintro ⟨fields, h⟩
    obtain ⟨⟨center, radius⟩, hboth, rfl⟩ := Verdict.map_eq_accepted.mp h
    have hr := (Verdict.both_eq_accepted.mp hboth).2
    obtain ⟨v, -, hv⟩ := acceptField_eq_accepted.mp hr
    -- a bare number and a distance end in the same check
    have hcheck : ∃ d : Distance, d.asRadius = .accepted radius := by
      unfold Distance.acceptRadius at hv
      split at hv <;> obtain ⟨d, -, hd⟩ := Verdict.andThen_eq_accepted.mp hv <;> exact ⟨d, hd⟩
    obtain ⟨d, hd⟩ := hcheck
    obtain ⟨hlt, rfl⟩ := Distance.asRadius_eq_accepted.mp hd
    exact hlt

theorem CenteredShape.ofDocument_encode (kind : String) {s : CenteredShape} (h : s.Proper) :
    CenteredShape.ofDocument kind s.encode = .ok s.restored := by
  have hcenter : requiredField s.encode "center" "Center" = .ok (.document s.center.encode) := by
    simp [requiredField, CenteredShape.encode]
  have hradius : requiredField s.encode "radius" "Radius" = .ok (.float s.radius.normalized) := by
    simp [requiredField, CenteredShape.encode, List.lookup_cons]
  have hmetric : s.encode.lookup "metric" = some (.text s.radius.metric.name) := by
    simp [CenteredShape.encode, List.lookup_cons]
  have hnumber : Distance.ofNumber (.float s.radius.normalized)
      = .accepted ⟨s.radius.normalized, .neutral⟩ := rfl
  have hin : radiusInMetric s.encode ⟨s.radius.normalized, .neutral⟩ = .ok s.radius.restored := by
    unfold radiusInMetric
    rw [hmetric]
    show (Metric.resolve _).map _ = _
    rw [Metric.resolve_name, ← Distance.inMetric_normalized]
    rfl
  unfold CenteredShape.ofDocument
  rw [hcenter, hradius]
  simp only [Except.bind, bind, hnumber, Verdict.orMalformed_accepted, hin, Point.ofValue_encode]
  rw [CenteredShape.ofParts_of_not_lt _ (Distance.restored_not_lt h)]
  rfl

theorem Circle.decode_encode {c : Circle} (h : c.Proper) :
    Circle.decode (.document c.encode) = .ok (some ⟨c.restored⟩) := by
  rw [Circle.decode, Circle.encode, CenteredShape.ofDocument_encode _ h]
  rfl

theorem Sphere.decode_encode {s : Sphere} (h : s.Proper) :
    Sphere.decode (.document s.encode) = .ok (some ⟨s.restored⟩) := by
  rw [Sphere.decode, Sphere.encode, CenteredShape.ofDocument_encode _ h]
  rfl

/-! ### Points, boxes and polygons -/

theorem Point.decode_encode (p : Point) : Point.decode (.document p.encode) = .ok (some p) := by
  rw [Point.decode, Point.ofValue_encode]
  · rfl
  · rintro ⟨⟩

theorem pointField_encode {fields : Document} {name : String} {p : Point}
    (h : fields.lookup name = some (.document p.encode)) :
    pointField fields name = .ok (some p) := by
  rw [pointField, h, Option.getD_some, Point.decode_encode]

theorem Box.decode_encode (b : Box) : Box.decode (.document b.encode) = .ok (some b) := by
  have htype : hasType b.encode "Polygon" = false := by
    simp [hasType, Box.encode, List.lookup_cons]
  have hfirst : pointField b.encode "first" = .ok (some b.first) :=
    pointField_encode (by simp [Box.encode])
  have hsecond : pointField b.encode "second" = .ok (some b.second) :=
    pointField_encode (by simp [Box.encode, List.lookup_cons])
  rw [Box.decode, Box.ofDocument, if_neg (by simp [htype]), hfirst, hsecond]
  rfl

theorem Polygon.decode_encode {q : Polygon} (h : q.Bounded) :
    Polygon.decode (.document q.encode) = .ok (some q) := by
  have htype : hasType q.encode "Polygon" = false := by
    simp [hasType, Polygon.encode, List.lookup_cons]
  have hpoints : q.encode.lookup "points"
      = some (.list (q.points.map fun p => .document p.encode)) := by
    simp [Polygon.encode]
  have hrow : Polygon.ofPointsField q.encode = .ok q := by
    rw [Polygon.ofPointsField, hpoints]
    simp only [Option.getD_some, Value.items?, readPoints_encode]
    show (Polygon.ofPoints q.points).orMalformed _ = _
    rw [Polygon.ofPoints_of_ne_nil h]
    rfl
  rw [Polygon.decode, Polygon.ofDocument, if_neg (by simp [htype]), hrow]
  rfl

/-! ### All shapes -/

/-- **Every shape is read back from its legacy document.** Points, boxes and polygons come back
field for field, circles and spheres with the radius that was restored from radians. -/
theorem decode_encode_legacy :
    (∀ p : Point, Point.decode (.document p.encode) = .ok (some p)) ∧
    (∀ b : Box, Box.decode (.document b.encode) = .ok (some b)) ∧
    (∀ q : Polygon, q.Bounded → Polygon.decode (.document q.encode) = .ok (some q)) ∧
    (∀ c : Circle, c.Proper → Circle.decode (.document c.encode) = .ok (some ⟨c.restored⟩)) ∧
    (∀ s : Sphere, s.Proper → Sphere.decode (.document s.encode) = .ok (some ⟨s.restored⟩)) :=
  ⟨Point.decode_encode, Box.decode_encode, fun _ => Polygon.decode_encode,
    fun _ => Circle.decode_encode, fun _ => Sphere.decode_encode⟩

/-- A polygon with a negative zero and with what is no number, a circle of five kilometers and
a sphere of two radians. -/
theorem decode_encode_legacy_samples :
    let q : Polygon := ⟨[⟨-0.0, 0.0 / 0.0⟩, ⟨1.0, 2.0⟩]⟩
    let c : Circle := ⟨⟨⟨1.0, -0.0⟩, ⟨5.0, .kilometers⟩⟩⟩
    let s : Sphere := ⟨⟨⟨1.0, 0.0 / 0.0⟩, ⟨2.0, .neutral⟩⟩⟩
    q.Bounded ∧ Polygon.decode (.document q.encode) = .ok (some q) ∧
    c.Proper ∧ Circle.decode (.document c.encode)
      = .ok (some ⟨⟨⟨1.0, -0.0⟩, ⟨5.0 / 6378.137 * 6378.137, .kilometers⟩⟩⟩) ∧
    s.Proper ∧ Sphere.decode (.document s.encode) = .ok (some s) := by
  intro q c s
  have hq : q.Bounded := by simp [q, Polygon.Bounded]
  have hc : c.Proper := by unfold CenteredShape.Proper; decide +kernel
  have hs : s.Proper := by unfold CenteredShape.Proper; decide +kernel
  exact ⟨hq, decode_encode_legacy.2.2.1 q hq, hc, decode_encode_legacy.2.2.2.1 c hc, hs,
    decode_encode_legacy.2.2.2.2 s hs⟩

end ShapeCodec
