/-
# The two readers of rows

A row of points is read in two places: the points of a legacy document by a reader that knows every
spelling of a point, and the ring of a GeoJSON polygon by one that knows only pairs and documents of
two fields. They ask their questions in another order. The reader of points looks for a pair first,
then for the type of a document and then at its fields; the reader of a ring takes every document
by its fields, whatever its type, and all else for a pair.

All the same a ring is a row of points and means the same as one. What the reader of a ring gives up
is the GeoJSON dialect and nothing else: an element is read in a ring exactly if it is read as a
point and is no document of type `Point` (`Point.ofRingElement_iff`). Such a document has its type
beside its fields or in the place of one of them, so that it never has exactly the two.

Key theorems: `FieldsOf.lookup_eq_none`, `Point.ofRingElement_iff`, `readRing_iff`,
`readRing_iff_untyped`.
-/
import ShapeCodec.Proofs.Shape.Dialect
import ShapeCodec.Proofs.Shape.FaultKind

namespace ShapeCodec

variable {fields : Document} {v x y : Value} {p : Point} {elements : List Value}
  {points : List Point}

/-! ### Elements -/

/-- A document of exactly `x` and `y` has no third field. -/
theorem FieldsOf.lookup_eq_none (h : FieldsOf fields x y) {name : String} (hx : name ≠ "x")
    (hy : name ≠ "y") : fields.lookup name = none := by
  obtain ⟨hlength, hfieldx, hfieldy⟩ := h
  obtain ⟨⟨first, u⟩, ⟨second, w⟩, rfl⟩ := List.length_eq_two.mp hlength
  simp only [List.lookup_cons, List.lookup_nil] at hfieldx hfieldy ⊢
  grind

theorem FieldsOf.untyped (h : FieldsOf fields x y) (type : String) : ¬ OfType fields type := by
  intro htype
  have hnone : fields.lookup "type" = none := h.lookup_eq_none (by decide) (by decide)
  cases hnone.symm.trans htype

/-- **An element is read in a ring exactly if it is read as a point without its type.** -/
theorem Point.ofRingElement_iff : Point.ofRingElement v = .ok p ↔
    Point.ofValue v = .ok p ∧ ¬ DocumentOfType "Point" v := by
  rw [Point.ofRingElement_eq_ok, Point.ofValue_eq_ok]
  by_cases hdocument : ∃ fields, v = .document fields
  · obtain ⟨fields, rfl⟩ := hdocument
    have htype : DocumentOfType "Point" (.document fields) ↔ OfType fields "Point" := by
      simp [DocumentOfType]
    rw [ringCoordinates_document, htype]
    by_cases hpoint : OfType fields "Point"
    · -- the fields are read in a ring, and the type is none of the two
      have hnone : ∀ x y, ¬ FieldsOf fields x y := fun x y hat => hat.untyped "Point" hpoint
      exact iff_of_false (Point.not_standsAt hnone) fun h => h.2 hpoint
    · rw [coordinates_fields (mt (hasType_iff begins_point).mp hpoint), and_iff_left hpoint]
  · have hother : ∀ fields, v ≠ .document fields := fun fields hv => hdocument ⟨fields, hv⟩
    have htype : ¬ DocumentOfType "Point" v := by
      rintro ⟨fields, hv, -⟩
      exact hother fields hv
    rw [ringCoordinates_other hother, coordinates_other hother, and_iff_left htype]

/-! ### Rows -/

theorem readRing_forall₂ : readRing elements = .ok points ↔
    List.Forall₂ (fun v p => Point.ofRingElement v = .ok p) elements points := by
  simp only [readRing_eq_ok, RingStandsFor, Point.ofRingElement_eq_ok]

theorem readPoints_readFrom : readPoints elements = .ok points ↔
    List.Forall₂ Point.ReadFrom elements points := by
  simp only [readPoints_eq_ok, ← Point.readFrom_iff]

/-- A row is read as a ring exactly if it is read as points and none of them has a type. -/
theorem readRing_iff : readRing elements = .ok points ↔
    readPoints elements = .ok points ∧ ∀ v ∈ elements, ¬ DocumentOfType "Point" v := by
  rw [readRing_forall₂, readPoints_eq_ok, and_comm, ← List.forall₂_and_left]
  simp only [Point.ofRingElement_iff, and_comm]

/-- **The reader of a ring is the reader of points without the GeoJSON dialect.** A row is read as
a ring if and only if it is read as points and holds no document of type `Point`. Then both give the
same points, one for each element in order. So every ring is a row of points that means the same,
and a row of points with such a document in it, which may be read well, is no ring. -/
theorem readRing_iff_untyped (elements : List Value) :
    ((∃ points, readRing elements = .ok points) ↔ (∃ points, readPoints elements = .ok points) ∧
      ∀ v ∈ elements, ¬ DocumentOfType "Point" v) ∧
    (∀ points, readRing elements = .ok points → readPoints elements = .ok points ∧
      List.Forall₂ Point.ReadFrom elements points) ∧
    ∀ v ∈ elements, DocumentOfType "Point" v → ∃ e, readRing elements = .error e := by
  refine ⟨?_, fun points hring => ?_, fun v hv htype => ?_⟩
  · simp only [readRing_iff, exists_and_right]
  · obtain ⟨hpoints, -⟩ := readRing_iff.mp hring
    exact ⟨hpoints, readPoints_readFrom.mp hpoints⟩
  · cases hring : readRing elements with
    | error e => exact ⟨e, rfl⟩
    | ok points => exact absurd htype ((readRing_iff.mp hring).2 v hv)

/-- A pair and a document of two fields are a ring. With a document of type `Point` at the end they
are points still, but no ring. -/
theorem readRing_iff_untyped_pair :
    let p : Point := ⟨1.0, -0.0⟩
    let q : Point := ⟨0.0 / 0.0, 2.0⟩
    let ring : List Value := [p.pair, .document q.encode]
    let typed : Value := .document (geoJsonDocument "Point" p.pair)
    readRing ring = .ok [p, q] ∧ List.Forall₂ Point.ReadFrom ring [p, q] ∧
      readPoints (ring ++ [typed]) = .ok [p, q, p] ∧ DocumentOfType "Point" typed ∧
      ∃ e, readRing (ring ++ [typed]) = .error e := by
  intro p q ring typed
  have hring : readRing ring = .ok [p, q] := rfl
  have htype : DocumentOfType "Point" typed := ⟨_, rfl, rfl⟩
  obtain ⟨-, hsame⟩ := (readRing_iff_untyped ring).2.1 [p, q] hring
  obtain ⟨-, -, hrefused⟩ := readRing_iff_untyped (ring ++ [typed])
  exact ⟨hring, hsame, rfl, htype, hrefused typed (by simp) htype⟩

end ShapeCodec
