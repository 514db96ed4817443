/-
# Overflow in the readers

When exactly a reader of points fails with an overflow, told of the value that is read. A value is
looked at as a point by two coordinates: the items of a pair, the fields `x` and `y` of a document
of exactly these, or the coordinates of a GeoJSON point. A point is out of range if either
coordinate is too large, and a row of points if one of its elements is and all before it can be
read. A polygon and the ring of a GeoJSON document are rows of points, and a box is two of them or
such a ring. The conditions are exact: outside them these readers keep to the faults they are meant
to fail with.

Key definitions: `Point.Readable`, `Point.OutOfRange`, `RingOutOfRange`, `Box.OutOfRange`,
`Polygon.OutOfRange`.
Key theorems: `Point.ofValue_reads`, `readPoints_reads`, `readRing_reads`, `Polygon.decode_fails`,
`Box.decode_fails`.
-/
import Mathlib
import ShapeCodec.Proofs.Shape.Failure
import ShapeCodec.Proofs.Shape.Reading
import ShapeCodec.Proofs.Value.Parts

namespace ShapeCodec

variable {α β : Type}

/-! ### Points -/

/-- Two numbers that doubles can stand for. -/
def FitsAt (at? : Value → Value → Prop) : Prop := ∃ x y, at? x y ∧ x.Fits ∧ y.Fits

/-- Two values of which one is too large. -/
def TooLargeAt (at? : Value → Value → Prop) : Prop :=
  ∃ x y, at? x y ∧ (x.TooLarge ∨ y.TooLarge)

/-- The two items of a list or a tuple. -/
def PairOf (v x y : Value) : Prop := v.items? = some [x, y]

/-- The fields of a document of exactly `x` and `y`. -/
def FieldsOf (fields : Document) (x y : Value) : Prop :=
  fields.length = 2 ∧ fields.lookup "x" = some x ∧ fields.lookup "y" = some y

/-- The coordinates of a GeoJSON point. -/
def GeoJsonPairOf (fields : Document) (x y : Value) : Prop :=
  coordinateItems? fields = some [x, y]

/-- The coordinates at which an element of a ring is read. -/
def RingCoordinates (v x y : Value) : Prop :=
  PairOf v x y ∨ ∃ fields, v = .document fields ∧ FieldsOf fields x y

/-- The coordinates at which a value is read as a point. -/
def Coordinates (v x y : Value) : Prop :=
  PairOf v x y ∨ ∃ fields, v = .document fields ∧
    if hasType fields "Point" then GeoJsonPairOf fields x y else FieldsOf fields x y

/-- A value that can be read as a point. -/
def Point.Readable (v : Value) : Prop := FitsAt (Coordinates v)

/-- A value that would be a point with a coordinate past every double. -/
def Point.OutOfRange (v : Value) : Prop := TooLargeAt (Coordinates v)

section
variable {r : Except Fault Point} {at? : Value → Value → Prop} {x y : Value}

/-- Reading at known coordinates depends on these alone. -/
theorem reads_at (hat : ∀ x' y', at? x' y' ↔ x' = x ∧ y' = y)
    (h : Reads r (x.Fits ∧ y.Fits) (x.TooLarge ∨ y.TooLarge)) :
    Reads r (FitsAt at?) (TooLargeAt at?) :=
  h.congr
    ⟨fun hf => ⟨x, y, (hat x y).mpr ⟨rfl, rfl⟩, hf⟩, fun ⟨x', y', hxy, hf⟩ => by
      obtain ⟨rfl, rfl⟩ := (hat x' y').mp hxy
      exact hf⟩
    ⟨fun ht => ⟨x, y, (hat x y).mpr ⟨rfl, rfl⟩, ht⟩, fun ⟨x', y', hxy, ht⟩ => by
      obtain ⟨rfl, rfl⟩ := (hat x' y').mp hxy
      exact ht⟩

/-- Reading where there are no two coordinates fails in the meant way. -/
theorem reads_nowhere {e : Fault} (he : e.IsConversion) (hat : ∀ x y, ¬ at? x y) :
    Reads (.error e : Except Fault Point) (FitsAt at?) (TooLargeAt at?) :=
  Reads.meant he (by simp [FitsAt, hat]) (by simp [TooLargeAt, hat])

end

theorem Point.ofPair_reads (v : Value) :
    Reads (Point.ofPair v) (FitsAt (PairOf v)) (TooLargeAt (PairOf v)) := by
  unfold Point.ofPair
  split
  · next x y h =>
    exact reads_at (by simp [PairOf, h, eq_comm])
      ((Point.ofCoordinates_judges x y).orMalformed "point")
  · next h => exact reads_nowhere trivial h

theorem Point.ofFields_reads (fields : Document) :
    Reads (Point.ofFields fields) (FitsAt (FieldsOf fields)) (TooLargeAt (FieldsOf fields)) := by
  unfold Point.ofFields
  split
  · next h => exact reads_nowhere trivial fun x y hxy => h hxy.1
  · next h =>
    split
    · next x y hx hy =>
      exact reads_at (by simp [FieldsOf, Decidable.not_not.mp h, hx, hy, eq_comm])
        ((Point.ofCoordinates_judges x y).orMalformed "point")
    · next h => exact reads_nowhere trivial fun x y hxy => h x y hxy.2.1 hxy.2.2

theorem Point.ofGeoJson_reads (fields : Document) :
    Reads (Point.ofGeoJson fields) (FitsAt (GeoJsonPairOf fields))
      (TooLargeAt (GeoJsonPairOf fields)) := by
  unfold Point.ofGeoJson
  split
  · next x y h =>
    exact reads_at (by simp [GeoJsonPairOf, h, eq_comm])
      ((Point.ofCoordinates_judges x y).orUnusable "GeoJson point")
  · next h => exact reads_nowhere trivial h

/-- Of a document, an element of a ring is read at the fields `x` and `y`. -/
theorem ringCoordinates_document (fields : Document) :
    RingCoordinates (.document fields) = FieldsOf fields := by
  ext x y
  simp [RingCoordinates, PairOf, Value.items?]

/-- Anything but a document is read as a pair. -/
theorem ringCoordinates_other {v : Value} (h : ∀ fields, v ≠ .document fields) :
    RingCoordinates v = PairOf v := by
  ext x y
  exact or_iff_left fun ⟨fields, hv, _⟩ => h fields hv

theorem Point.ofRingElement_reads (v : Value) :
    Reads (Point.ofRingElement v) (FitsAt (RingCoordinates v)) (TooLargeAt (RingCoordinates v)) := by
  unfold Point.ofRingElement
  split
  · exact reads_nowhere trivial (by simp [RingCoordinates, PairOf, Value.items?])
  · next fields =>
    rw [ringCoordinates_document]
    exact Point.ofFields_reads fields
  · next hdocument =>
    rw [ringCoordinates_other hdocument]
    exact Point.ofPair_reads v

theorem coordinates_geoJson {fields : Document} (htype : hasType fields "Point" = true) :
    Coordinates (.document fields) = GeoJsonPairOf fields := by
  ext x y
  simp [Coordinates, PairOf, Value.items?, htype]

theorem coordinates_fields {fields : Document} (htype : ¬ hasType fields "Point" = true) :
    Coordinates (.document fields) = FieldsOf fields := by
  ext x y
  simp [Coordinates, PairOf, Value.items?, htype]

/-- A value that is no document is read as a pair. -/
theorem coordinates_other {v : Value} (h : ∀ fields, v ≠ .document fields) :
    Coordinates v = PairOf v := by
  ext x y
  exact or_iff_left fun ⟨fields, hv, _⟩ => h fields hv

theorem Point.ofDocument_reads (fields : Document) :
    Reads (Point.ofDocument fields) (Point.Readable (.document fields))
      (Point.OutOfRange (.document fields)) := by
  unfold Point.ofDocument Point.Readable Point.OutOfRange
  split
  · next htype =>
    rw [coordinates_geoJson htype]
    exact Point.ofGeoJson_reads fields
  · next htype =>
    rw [coordinates_fields htype]
    exact Point.ofFields_reads fields

theorem Point.ofValue_reads (v : Value) :
    Reads (Point.ofValue v) (Point.Readable v) (Point.OutOfRange v) := by
  unfold Point.ofValue
  split
  · next items hitems =>
    have hdocument : ∀ fields, v ≠ .document fields := by
      rintro fields rfl
      cases hitems
    unfold Point.Readable Point.OutOfRange
    rw [coordinates_other hdocument]
    exact Point.ofPair_reads v
  · next hitems =>
    split
    · exact Point.ofDocument_reads _
    · next hdocument =>
      refine reads_nowhere trivial fun x y hat => ?_
      rw [coordinates_other hdocument] at hat
      cases hitems.symm.trans hat

theorem Point.decode_reads (v : Value) :
    Reads (Point.decode v) (v = .null ∨ Point.Readable v) (Point.OutOfRange v) := by
  unfold Point.decode
  split
  · refine (Reads.ok none).congr (by simp) ?_
    rw [← (Point.ofValue_reads .null).overflow_iff]
    simp [Point.ofValue, Value.items?]
  · next hnull => exact ((Point.ofValue_reads v).map some).congr (or_iff_right hnull).symm Iff.rfl

/-! ### Rows of points -/

/-- A row is read if all its elements are, and overflows if one of them does and all before it are
read. -/
theorem Reads.mapM {read : Value → Except Fault α} {readable outOfRange : Value → Prop}
    (h : ∀ v, Reads (read v) (readable v) (outOfRange v)) (elements : List Value) :
    Reads (elements.mapM read) (∀ u ∈ elements, readable u)
      (Reaches readable outOfRange elements) := by
  induction elements with
  | nil => exact (Reads.ok _).congr (by simp) (by simp [not_reaches_nil])
  | cons v rest ih =>
    rw [List.mapM_cons]
    have hchain := (h v).bind fun a _ => ih.bind fun row _ => Reads.ok (a :: row)
    exact hchain.congr (by simp) (by simp [reaches_cons])

theorem Point.ofElement_reads (v : Value) :
    Reads (Point.ofElement v) (Point.Readable v) (Point.OutOfRange v) := by
  unfold Point.ofElement
  split
  · exact reads_nowhere trivial (by simp [Coordinates, PairOf, Value.items?])
  · exact Point.ofValue_reads v

theorem readPoints_reads (elements : List Value) :
    Reads (readPoints elements) (∀ u ∈ elements, Point.Readable u)
      (Reaches Point.Readable Point.OutOfRange elements) := by
  rw [readPoints_eq_mapM]
  exact Reads.mapM Point.ofElement_reads elements

/-- A ring of which an element is out of range and all elements before it can be read. -/
def RingOutOfRange : List Value → Prop :=
  Reaches (fun v => FitsAt (RingCoordinates v)) (fun v => TooLargeAt (RingCoordinates v))

theorem readRing_reads (elements : List Value) :
    Reads (readRing elements) (∀ u ∈ elements, FitsAt (RingCoordinates u))
      (RingOutOfRange elements) := by
  rw [readRing_eq_mapM]
  exact Reads.mapM Point.ofRingElement_reads elements

/-! ### Polygons -/

theorem Polygon.ofPoints_judges (points : List Point) :
    Judges (Polygon.ofPoints points) (points ≠ []) False := by
  cases points <;> exact ⟨by simp [Polygon.ofPoints, Verdict.refuse, Verdict.within],
    by simp [Polygon.ofPoints, Verdict.refuse, Verdict.within]⟩

/-- A GeoJSON document whose first ring is out of range. -/
def GeoJsonRingOutOfRange (fields : Document) : Prop :=
  ∃ ring others elements, coordinateItems? fields = some (ring :: others) ∧
    ring.items? = some elements ∧ RingOutOfRange elements

theorem Polygon.ofGeoJson_fails (fields : Document) :
    Fails (Polygon.ofGeoJson fields) (GeoJsonRingOutOfRange fields) := by
  unfold Polygon.ofGeoJson
  split
  · next ring others hitems =>
    split
    · next elements hring =>
      refine ((readRing_reads elements).bindFails fun points _ =>
        ((Polygon.ofPoints_judges points).orUnusable "GeoJson polygon").toFails).congr ?_
      simp [GeoJsonRingOutOfRange, hitems, hring]
    · next hring =>
      exact Fails.meant trivial (by simp [GeoJsonRingOutOfRange, hitems, hring])
  · next hitems =>
    refine Fails.meant trivial ?_
    rintro ⟨ring, others, -, h, -⟩
    exact hitems ring others h

/-- A legacy document whose row of points is out of range. -/
def PointsFieldOutOfRange (fields : Document) : Prop :=
  ∃ v elements, fields.lookup "points" = some v ∧ v.items? = some elements ∧
    Reaches Point.Readable Point.OutOfRange elements

theorem Polygon.ofPointsField_fails (fields : Document) :
    Fails (Polygon.ofPointsField fields) (PointsFieldOutOfRange fields) := by
  unfold Polygon.ofPointsField PointsFieldOutOfRange
  rcases fields.lookup "points" with _ | v
  · exact Fails.meant trivial (by simp)
  · simp only [Option.getD_some, Option.some.injEq]
    split
    · exact Fails.meant trivial (by simp [Value.items?])
    · split
      · next elements hitems =>
        refine ((readPoints_reads elements).bindFails fun points _ =>
          ((Polygon.ofPoints_judges points).orMalformed "polygon").toFails).congr ?_
        simp [hitems]
      · next hitems => exact Fails.meant trivial (by simp [hitems])

/-- A value that would be a polygon with a point past every double. -/
def Polygon.OutOfRange (v : Value) : Prop :=
  ∃ fields, v = .document fields ∧
    if hasType fields "Polygon" then GeoJsonRingOutOfRange fields else PointsFieldOutOfRange fields

theorem Polygon.decode_fails (v : Value) : Fails (Polygon.decode v) (Polygon.OutOfRange v) := by
  unfold Polygon.decode
  split
  · exact (Reads.ok none).toFails.congr (by simp [Polygon.OutOfRange])
  · next fields =>
    unfold Polygon.ofDocument
    split
    · next h => exact ((Polygon.ofGeoJson_fails fields).map some).congr (by simp [Polygon.OutOfRange, h])
    · next h =>
      exact ((Polygon.ofPointsField_fails fields).map some).congr (by simp [Polygon.OutOfRange, h])
  · next hdocument =>
    refine Fails.meant trivial ?_
    rintro ⟨fields, hv, -⟩
    exact hdocument fields hv

/-! ### Boxes -/

/-- A field of a document, null where it is absent. -/
def fieldOrNull (fields : Document) (name : String) : Value := (fields.lookup name).getD .null

/-- A legacy document with a corner past every double: the first, or the second where the first
does not stop the reader. An absent corner does not, since both are read before one is missed. -/
def CornersOutOfRange (fields : Document) : Prop :=
  Point.OutOfRange (fieldOrNull fields "first") ∨
    (fieldOrNull fields "first" = .null ∨ Point.Readable (fieldOrNull fields "first")) ∧
      Point.OutOfRange (fieldOrNull fields "second")

/-- A value that would be a box with a corner past every double. -/
def Box.OutOfRange (v : Value) : Prop :=
  ∃ fields, v = .document fields ∧
    if hasType fields "Polygon" then GeoJsonRingOutOfRange fields else CornersOutOfRange fields

theorem Box.ofRing_fails (ring : List Point) : Fails (Box.ofRing ring) False := by
  unfold Box.ofRing
  split
  · exact (Reads.ok _).toFails
  · exact Fails.meant trivial id

theorem present_fails (part : String) (a : Option α) : Fails (present part a) False := by
  cases a with
  | none => exact Fails.meant trivial id
  | some a => exact (Reads.ok a).toFails

/-- Where no later link can overflow, a chain overflows where its first link does. -/
theorem Fails.bind_right {r : Except Fault α} {g : α → Except Fault β} {t : Prop} (h : Fails r t)
    (hg : ∀ a, Fails (g a) False) : Fails (r >>= g) t := by
  cases r with
  | error e => exact h.recast
  | ok a =>
    have ht : ¬ t := fun ht => by cases h.overflow_iff.mpr ht
    exact (hg a).congr (by simp [ht])

theorem Box.ofDocument_fails (fields : Document) :
    Fails (Box.ofDocument fields)
      (if hasType fields "Polygon" then GeoJsonRingOutOfRange fields
        else CornersOutOfRange fields) := by
  unfold Box.ofDocument
  split
  · exact (Polygon.ofGeoJson_fails fields).bind_right fun p => Box.ofRing_fails p.points
  · refine (Point.decode_reads (fieldOrNull fields "first")).bindFails fun first _ => ?_
    refine (Point.decode_reads (fieldOrNull fields "second")).toFails.bind_right fun second => ?_
    exact (present_fails _ first).bind_right fun _ =>
      (present_fails _ second).bind_right fun _ => (Reads.ok _).toFails

theorem Box.decode_fails (v : Value) : Fails (Box.decode v) (Box.OutOfRange v) := by
  unfold Box.decode
  split
  · exact (Reads.ok none).toFails.congr (by simp [Box.OutOfRange])
  · next fields =>
    exact ((Box.ofDocument_fails fields).map some).congr (by simp [Box.OutOfRange])
  · next hdocument =>
    refine Fails.meant trivial ?_
    rintro ⟨fields, hv, -⟩
    exact hdocument fields hv

end ShapeCodec
