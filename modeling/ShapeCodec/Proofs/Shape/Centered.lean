/-
# The documents of circles and spheres

A circle or a sphere is read from a document with a center, a radius and, if it likes, a metric.
The center is anything that is read as a point, the radius is a number of radians, and the metric
goes by exactly its name; a document without one is in the neutral metric, but a metric that is
null is no metric. The radius is expressed in the metric before it is looked at, so that it must
not be below zero in that metric.

These documents are told here without a reader (`CenteredDocument`), each with the shape that it is
for. Both readers accept exactly these and give that shape (`decode_centered`), in whichever order
they check the parts and whatever else stands in the document.

Key definitions: `NamedMetric`, `Metric.express`, `CenteredDocument`, `ReadsCentered`.
Key theorems: `radiusInMetric_iff`, `readRadius_eq_ok`, `CenteredShape.ofDocument_grammar`,
`decode_centered`.
-/
import ShapeCodec.Proofs.Shape.Dialect

namespace ShapeCodec

variable {fields : Document} {m : Metric} {s : CenteredShape}

/-! ### Metrics -/

/-- The metric of a document: the neutral one where none is given, else the one that is named. -/
inductive NamedMetric (fields : Document) : Metric → Prop
  | absent (h : fields.lookup "metric" = none) : NamedMetric fields .neutral
  | named {v : Value} {m : Metric} (hfield : fields.lookup "metric" = some v)
    (hname : v.text? = some m.name) : NamedMetric fields m

theorem Metric.ofName?_eq_some {text : String} : Metric.ofName? text = some m ↔ text = m.name := by
  constructor
  · intro h
    unfold Metric.ofName? at h
    split_ifs at h with hkilometers hmiles hneutral
    · obtain rfl := Option.some.inj h
      exact hkilometers
    · obtain rfl := Option.some.inj h
      exact hmiles
    · obtain rfl := Option.some.inj h
      exact hneutral
  · rintro rfl
    exact Metric.ofName?_name m

theorem Value.metric?_eq_some {v : Value} : v.metric? = some m ↔ v.text? = some m.name := by
  rw [Value.metric?, Option.bind_eq_some_iff]
  simp only [Metric.ofName?_eq_some, exists_eq_right]

theorem metricField_iff : (fieldOrNull fields "metric").metric? = some m ↔
    ∃ v, fields.lookup "metric" = some v ∧ v.text? = some m.name := by
  simp only [← Value.metric?_eq_some]
  exact fieldOrNull_iff (P := fun v => v.metric? = some m) nofun

/-! ### Radii -/

/-- A number of radians, expressed in a metric. In the neutral metric it stays as it is. -/
def Metric.express (m : Metric) (x : Float) : Float :=
  if m = .neutral then x else x / 1.0 * m.multiplier

theorem Distance.inMetric_neutral (x : Float) (m : Metric) :
    (⟨x, .neutral⟩ : Distance).inMetric m = ⟨m.express x, m⟩ := by
  unfold Distance.inMetric Metric.express
  by_cases h : m = .neutral
  · rw [if_pos h, if_pos h, h]
  · rw [if_neg h, if_neg h]
    rfl

/-- A radius in radians is expressed in the metric of the document. -/
theorem radiusInMetric_iff {x : Float} {d : Distance} :
    radiusInMetric fields ⟨x, .neutral⟩ = .ok d ↔
      ∃ m, NamedMetric fields m ∧ d = ⟨m.express x, m⟩ := by
  simp only [radiusInMetric_eq_ok, Distance.inMetric_neutral, metricField_iff]
  constructor
  · rintro (⟨hnone, rfl⟩ | ⟨m, ⟨v, hfield, hname⟩, rfl⟩)
    · exact ⟨.neutral, .absent hnone, rfl⟩
    · exact ⟨m, .named hfield hname, rfl⟩
  · rintro ⟨m, hmetric, rfl⟩
    cases hmetric with
    | absent hnone => exact Or.inl ⟨hnone, rfl⟩
    | named hfield hname => exact Or.inr ⟨m, ⟨_, hfield, hname⟩, rfl⟩

theorem Value.denotes_field {name : String} {x : Float} :
    (fieldOrNull fields name).Denotes x ↔ ∃ v, fields.lookup name = some v ∧ v.WidensTo x := by
  rw [Value.denotes_iff]
  exact fieldOrNull_iff (P := fun v => v.WidensTo x) nofun

/-- A radius is read as a number that is not below zero when it is expressed in the metric of the
document. -/
theorem readRadius_eq_ok {kind : String} {d : Distance} : readRadius kind fields = .ok d ↔
    ∃ v x m, fields.lookup "radius" = some v ∧ v.WidensTo x ∧ NamedMetric fields m ∧
      ¬ m.express x < 0 ∧ d = ⟨m.express x, m⟩ := by
  constructor
  · intro h
    obtain ⟨⟨x, metric⟩, hread, h⟩ := bind_eq_ok.mp h
    obtain ⟨e, hexpressed, hchecked⟩ := bind_eq_ok.mp h
    obtain ⟨hnumber, rfl⟩ := Distance.ofNumber_eq_accepted.mp (Verdict.orMalformed_eq_ok.mp hread)
    obtain ⟨hproper, rfl⟩ :=
      Distance.asRadius_eq_accepted.mp (Verdict.orMalformed_eq_ok.mp hchecked)
    obtain ⟨v, hfield, hwidens⟩ := Value.denotes_field.mp hnumber
    obtain ⟨m, hmetric, rfl⟩ := radiusInMetric_iff.mp hexpressed
    exact ⟨v, x, m, hfield, hwidens, hmetric, hproper, rfl⟩
  · rintro ⟨v, x, m, hfield, hwidens, hmetric, hproper, rfl⟩
    have hnumber : Distance.ofNumber (fieldOrNull fields "radius") = .accepted ⟨x, .neutral⟩ :=
      Distance.ofNumber_eq_accepted.mpr ⟨Value.denotes_field.mpr ⟨v, hfield, hwidens⟩, rfl⟩
    have hchecked : Distance.asRadius ⟨m.express x, m⟩ = .accepted ⟨m.express x, m⟩ :=
      Distance.asRadius_of_not_lt hproper
    exact bind_eq_ok.mpr ⟨_, Verdict.orMalformed_eq_ok.mpr hnumber, bind_eq_ok.mpr
      ⟨_, radiusInMetric_iff.mpr ⟨m, hmetric, rfl⟩, Verdict.orMalformed_eq_ok.mpr hchecked⟩⟩

/-! ### Documents -/

/-- A document of a circle or a sphere, and the center and the radius of the shape it is for. -/
inductive CenteredDocument (fields : Document) : CenteredShape → Prop
  | intro {center radius : Value} {p : Point} {x : Float} {m : Metric}
    (hcenter : fields.lookup "center" = some center) (hpoint : Point.ReadFrom center p)
    (hradius : fields.lookup "radius" = some radius) (hnumber : radius.WidensTo x)
    (hmetric : NamedMetric fields m) (hproper : ¬ m.express x < 0) :
    CenteredDocument fields ⟨p, ⟨m.express x, m⟩⟩

theorem CenteredShape.ofDocument_grammar {kind : String} :
    CenteredShape.ofDocument kind fields = .ok s ↔ CenteredDocument fields s := by
  rw [CenteredShape.ofDocument_eq_ok, Point.readFrom_field, readRadius_eq_ok]
  constructor
  · obtain ⟨p, d⟩ := s
    rintro ⟨⟨center, hcenter, hpoint⟩, radius, x, m, hradius, hnumber, hmetric, hproper, rfl⟩
    exact .intro hcenter hpoint hradius hnumber hmetric hproper
  · rintro ⟨hcenter, hpoint, hradius, hnumber, hmetric, hproper⟩
    exact ⟨⟨_, hcenter, hpoint⟩, _, _, _, hradius, hnumber, hmetric, hproper, rfl⟩

/-- Without a name a metric is not passed over. -/
theorem CenteredDocument.not_null_metric (h : CenteredDocument fields s) :
    fields.lookup "metric" ≠ some .null := by
  obtain ⟨-, -, -, -, hmetric, -⟩ := h
  intro hnull
  cases hmetric with
  | absent hnone => cases hnone.symm.trans hnull
  | named hfield hname =>
    obtain rfl := Option.some.inj (hfield.symm.trans hnull)
    cases hname

/-! ### Readers -/

/-- A reader that makes of the documents of circles and spheres, and of nothing else but null, the
shapes that they are for. -/
structure ReadsCentered {α : Type} (read : Value → Except Fault (Option α))
    (make : CenteredShape → α) : Prop where
  accepts : ∀ v, v ≠ .null →
    ((∃ r, read v = .ok r) ↔ ∃ fields s, v = .document fields ∧ CenteredDocument fields s)
  gives : ∀ v, v ≠ .null → ∀ r, read v = .ok r ↔
    ∃ fields s, v = .document fields ∧ CenteredDocument fields s ∧ r = some (make s)
  nullMetric : ∀ fields, fields.lookup "metric" = some .null →
    ∃ e, read (.document fields) = .error e

theorem readsCentered {α : Type} {read : Value → Except Fault (Option α)}
    {make : CenteredShape → α} {kind : String}
    (hdocument : ∀ fields, read (.document fields) =
      (CenteredShape.ofDocument kind fields).map fun s => some (make s))
    (hother : ∀ v, v ≠ .null → (∀ fields, v ≠ .document fields) → ∃ e, read v = .error e) :
    ReadsCentered read make := by
  have hread : ∀ fields r, read (.document fields) = .ok r ↔
      ∃ s, CenteredDocument fields s ∧ some (make s) = r := by
    intro fields r
    rw [hdocument, map_eq_ok]
    simp only [CenteredShape.ofDocument_grammar]
  have hgives : ∀ v, v ≠ .null → ∀ r, read v = .ok r ↔
      ∃ fields s, v = .document fields ∧ CenteredDocument fields s ∧ r = some (make s) := by
    intro v hv r
    by_cases h : ∃ fields, v = .document fields
    · obtain ⟨fields, rfl⟩ := h
      simp [hread, eq_comm]
    · have hnone : ∀ fields, v ≠ .document fields := fun fields hfields => h ⟨fields, hfields⟩
      obtain ⟨e, he⟩ := hother v hv hnone
      simp [he, hnone]
  refine ⟨fun v hv => ?_, hgives, fun fields hnull => ?_⟩
  · simp only [hgives v hv]
    constructor
    · rintro ⟨_, fields, s, hfields, hs, -⟩
      exact ⟨fields, s, hfields, hs⟩
    · rintro ⟨fields, s, hfields, hs⟩
      exact ⟨_, fields, s, hfields, hs, rfl⟩
  · cases h : read (.document fields) with
    | error e => exact ⟨e, rfl⟩
    | ok r =>
      obtain ⟨s, hs, -⟩ := (hread fields r).mp h
      exact absurd hnull hs.not_null_metric

/-- **Circles and spheres are read from exactly their documents.** From any value but null either
reader succeeds if and only if the value is such a document, and it gives the center, the metric
and the radius in that metric that the document is for. With a metric that is null nothing is
read. -/
theorem decode_centered :
    ReadsCentered Circle.decode Circle.mk ∧ ReadsCentered Sphere.decode Sphere.mk := by
  constructor
  · refine readsCentered (fun _ => rfl) fun v hv hdocument => ?_
    cases v with
    | null => exact absurd rfl hv
    | document fields => exact absurd rfl (hdocument fields)
    | _ => exact ⟨_, rfl⟩
  · refine readsCentered (fun _ => rfl) fun v hv hdocument => ?_
    cases v with
    | null => exact absurd rfl hv
    | document fields => exact absurd rfl (hdocument fields)
    | _ => exact ⟨_, rfl⟩

/-- A whole number of radians in miles, around a center in GeoJSON. With null for the metric the
same document is none. -/
theorem decode_centered_miles :
    let center : Point := ⟨1.0, 2.0⟩
    let parts : Document := [("radius", .int 2),
      ("center", .document (geoJsonDocument "Point" center.pair))]
    let fields : Document := ("metric", .text "MILES") :: parts
    let shape : CenteredShape := ⟨center, ⟨Float.ofInt 2 / 1.0 * 3963.191, .miles⟩⟩
    Value.document fields ≠ .null ∧ Circle.decode (.document fields) = .ok (some ⟨shape⟩) ∧
      Sphere.decode (.document fields) = .ok (some ⟨shape⟩) ∧
      ∃ e, Sphere.decode (.document (("metric", .null) :: parts)) = .error e := by
  intro center parts fields shape
  have hv : Value.document fields ≠ .null := nofun
  have hpoint : Point.ReadFrom (.document (geoJsonDocument "Point" center.pair)) center :=
    ⟨nofun, rfl⟩
  have hmetric : NamedMetric fields .miles := .named rfl rfl
  have hproper : ¬ Metric.miles.express (Float.ofInt 2) < 0 := by decide +kernel
  have hshape : CenteredDocument fields shape :=
    .intro rfl hpoint rfl (.int (by decide +kernel)) hmetric hproper
  refine ⟨hv, ?_, ?_, ?_⟩
  · exact (decode_centered.1.gives _ hv _).mpr ⟨fields, shape, rfl, hshape, rfl⟩
  · exact (decode_centered.2.gives _ hv _).mpr ⟨fields, shape, rfl, hshape, rfl⟩
  · exact decode_centered.2.nullMetric _ rfl

end ShapeCodec
