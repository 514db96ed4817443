/-
# What a value stands for as a point

A reader of points, told by what it reads: a number stands for a double, which it is or which is
nearest to it, and two numbers at the coordinates of a value stand for a point. A reader gives
exactly the point that stands there, and the reader of a ring gives one point for each element,
in order. A document with a row of points in it is read by that row.

Key definitions: `Value.Denotes`, `Point.StandsAt`, `RingStandsFor`, `PointsRow`, `FirstRing`.
Key theorems: `Value.acceptNumber_eq_accepted`, `Point.ofValue_eq_ok`,
`Point.ofRingElement_eq_ok`, `mapM_eq_ok`, `readPoints_eq_ok`, `readRing_eq_ok`,
`Polygon.ofPointsField_eq_ok`, `Polygon.ofGeoJson_eq_ok`.
-/
import Mathlib
import ShapeCodec.Proofs.Shape.Escape
import ShapeCodec.Proofs.Shape.Reading

namespace ShapeCodec

/-- A number and the double it stands for: a double for itself, a whole number for the nearest
one. -/
def Value.Denotes (v : Value) (x : Float) : Prop :=
  v = .float x ∨ ∃ n : Int, v = .int n ∧ floatOfInt? n = some x

theorem Value.acceptNumber_eq_accepted {v : Value} {x : Float} :
    v.acceptNumber = .accepted x ↔ v.Denotes x := by
  unfold Value.acceptNumber Value.Denotes
  split
  · simp
  · next n =>
    cases hn : floatOfInt? n <;> simp [hn]
  · next hfloat hint =>
    have hneither : ¬ (v = .float x ∨ ∃ n : Int, v = .int n ∧ floatOfInt? n = some x) := by
      rintro (h | ⟨n, h, -⟩)
      · exact hfloat x h
      · exact hint n h
    simpa [Verdict.refuse] using hneither

/-- The point at two coordinates. -/
def Point.StandsAt (p : Point) (at? : Value → Value → Prop) : Prop :=
  ∃ x y, at? x y ∧ x.Denotes p.x ∧ y.Denotes p.y

variable {x y v : Value} {p : Point} {at? : Value → Value → Prop}

theorem Point.ofCoordinates_eq_accepted :
    Point.ofCoordinates x y = .accepted p ↔ x.Denotes p.x ∧ y.Denotes p.y := by
  unfold Point.ofCoordinates
  constructor
  · intro h
    obtain ⟨⟨a, b⟩, hboth, rfl⟩ := Verdict.map_eq_accepted.mp h
    obtain ⟨ha, hb⟩ := Verdict.both_eq_accepted.mp hboth
    exact ⟨Value.acceptNumber_eq_accepted.mp (Verdict.within_eq_accepted.mp ha),
      Value.acceptNumber_eq_accepted.mp (Verdict.within_eq_accepted.mp hb)⟩
  · rintro ⟨hx, hy⟩
    rw [Value.acceptNumber_eq_accepted.mpr hx, Value.acceptNumber_eq_accepted.mpr hy]
    rfl

/-- Where the coordinates are known, the point at them is the one they stand for. -/
theorem Point.standsAt_iff (hat : ∀ x' y', at? x' y' ↔ x' = x ∧ y' = y) :
    p.StandsAt at? ↔ x.Denotes p.x ∧ y.Denotes p.y := by
  constructor
  · rintro ⟨x', y', hxy, hp⟩
    obtain ⟨rfl, rfl⟩ := (hat x' y').mp hxy
    exact hp
  · intro hp
    exact ⟨x, y, (hat x y).mpr ⟨rfl, rfl⟩, hp⟩

theorem Point.not_standsAt (hat : ∀ x y, ¬ at? x y) : ¬ p.StandsAt at? := by
  rintro ⟨x, y, hxy, -⟩
  exact hat x y hxy

theorem Point.ofPair_eq_ok : Point.ofPair v = .ok p ↔ p.StandsAt (PairOf v) := by
  unfold Point.ofPair
  split
  · next x y h =>
    have hat : ∀ x' y', PairOf v x' y' ↔ x' = x ∧ y' = y := by simp [PairOf, h, eq_comm]
    rw [Verdict.orMalformed_eq_ok, Point.ofCoordinates_eq_accepted, Point.standsAt_iff hat]
  · next h =>
    have hnone : ∀ x y, ¬ PairOf v x y := h
    simp [Point.not_standsAt hnone]

theorem Point.ofFields_eq_ok {fields : Document} :
    Point.ofFields fields = .ok p ↔ p.StandsAt (FieldsOf fields) := by
  unfold Point.ofFields
  split
  · next hlength =>
    have hnone : ∀ x y, ¬ FieldsOf fields x y := fun x y hxy => hlength hxy.1
    simp [Point.not_standsAt hnone]
  · next hlength =>
    split
    · next x y hx hy =>
      have hat : ∀ x' y', FieldsOf fields x' y' ↔ x' = x ∧ y' = y := by
        simp [FieldsOf, Decidable.not_not.mp hlength, hx, hy, eq_comm]
      rw [Verdict.orMalformed_eq_ok, Point.ofCoordinates_eq_accepted, Point.standsAt_iff hat]
    · next h =>
      have hnone : ∀ x y, ¬ FieldsOf fields x y := fun x y hxy => h x y hxy.2.1 hxy.2.2
      simp [Point.not_standsAt hnone]

theorem Point.ofGeoJson_eq_ok {fields : Document} :
    Point.ofGeoJson fields = .ok p ↔ p.StandsAt (GeoJsonPairOf fields) := by
  unfold Point.ofGeoJson
  split
  · next x y h =>
    have hat : ∀ x' y', GeoJsonPairOf fields x' y' ↔ x' = x ∧ y' = y := by
      simp [GeoJsonPairOf, h, eq_comm]
    rw [Verdict.orUnusable_eq_ok, Point.ofCoordinates_eq_accepted, Point.standsAt_iff hat]
  · next h =>
    have hnone : ∀ x y, ¬ GeoJsonPairOf fields x y := h
    simp [Point.not_standsAt hnone]

/-- **A point is read as the one that stands at the coordinates of the value.** -/
theorem Point.ofValue_eq_ok : Point.ofValue v = .ok p ↔ p.StandsAt (Coordinates v) := by
  unfold Point.ofValue
  split
  · next items hitems =>
    have hdocument : ∀ fields, v ≠ .document fields := by
      rintro fields rfl
      cases hitems
    rw [coordinates_other hdocument, Point.ofPair_eq_ok]
  · next hitems =>
    split
    · unfold Point.ofDocument
      split
      · next htype => rw [coordinates_geoJson htype, Point.ofGeoJson_eq_ok]
      · next htype => rw [coordinates_fields htype, Point.ofFields_eq_ok]
    · next hdocument =>
      rw [coordinates_other hdocument]
      have hnone : ∀ x y, ¬ PairOf v x y := fun x y hat => by cases hitems.symm.trans hat
      simp [Point.not_standsAt hnone]

/-! ### Rows of points -/

theorem Point.ofElement_eq_ok {v : Value} {p : Point} :
    Point.ofElement v = .ok p ↔ Point.ofValue v = .ok p := by
  unfold Point.ofElement
  split
  · exact iff_of_false nofun nofun
  · rfl

theorem Point.ofRingElement_eq_ok :
    Point.ofRingElement v = .ok p ↔ p.StandsAt (RingCoordinates v) := by
  unfold Point.ofRingElement
  split
  · have hnone : ∀ x y, ¬ RingCoordinates .null x y := by
      simp [RingCoordinates, PairOf, Value.items?]
    simp [Point.not_standsAt hnone]
  · next fields => rw [ringCoordinates_document, Point.ofFields_eq_ok]
  · next hdocument => rw [ringCoordinates_other hdocument, Point.ofPair_eq_ok]

/-- The elements of a ring and the points they stand for, one for each in order. -/
def RingStandsFor : List Value → List Point → Prop :=
  List.Forall₂ fun v p => p.StandsAt (RingCoordinates v)

/-- A row is read if each element is, and gives what the elements give, in order. -/
theorem mapM_eq_ok {α β : Type} {read : α → Except Fault β} {row : List α} {results : List β} :
    row.mapM read = .ok results ↔ List.Forall₂ (fun a b => read a = .ok b) row results := by
  induction row generalizing results with
  | nil => simp [pure, Except.pure, eq_comm]
  | cons a rest ih =>
    rw [List.mapM_cons, List.forall₂_cons_left_iff]
    constructor
    · intro h
      obtain ⟨b, hb, h⟩ := bind_eq_ok.mp h
      obtain ⟨others, hothers, h⟩ := bind_eq_ok.mp h
      exact ⟨b, others, hb, ih.mp hothers, (Except.ok.inj h).symm⟩
    · rintro ⟨b, others, hb, hothers, rfl⟩
      exact bind_eq_ok.mpr ⟨b, hb, bind_eq_ok.mpr ⟨others, ih.mpr hothers, rfl⟩⟩

theorem readPoints_eq_ok {elements : List Value} {points : List Point} :
    readPoints elements = .ok points ↔
      List.Forall₂ (fun v p => Point.ofValue v = .ok p) elements points := by
  rw [readPoints_eq_mapM, mapM_eq_ok]
  simp only [Point.ofElement_eq_ok]

/-- **A ring is read as the points that its elements stand for.** -/
theorem readRing_eq_ok {elements : List Value} {points : List Point} :
    readRing elements = .ok points ↔ RingStandsFor elements points := by
  rw [readRing_eq_mapM, mapM_eq_ok]
  simp only [Point.ofRingElement_eq_ok, RingStandsFor]

/-! ### Documents of a row

A document holds at most one row: a legacy document in its field of points, a GeoJSON document in
its first ring. It is read by the whole row, and then checked; without a row it fails. -/

theorem Polygon.ofPoints_eq_accepted {points : List Point} {q : Polygon} :
    Polygon.ofPoints points = .accepted q ↔ q.Bounded ∧ q.points = points := by
  obtain ⟨row⟩ := q
  unfold Polygon.Bounded
  cases points with
  | nil => simp [Polygon.ofPoints, Verdict.refuse, Verdict.within]
  | cons p rest =>
    simp only [Polygon.ofPoints, List.isEmpty_cons, Bool.false_eq_true, if_false,
      Verdict.accepted.injEq, Polygon.mk.injEq]
    constructor
    · rintro rfl
      exact ⟨List.cons_ne_nil _ _, rfl⟩
    · rintro ⟨-, rfl⟩
      rfl

/-- The elements of the row of points of a legacy document. -/
def PointsRow (fields : Document) (elements : List Value) : Prop :=
  (fieldOrNull fields "points").items? = some elements

/-- The elements of the first ring of a GeoJSON document. -/
def FirstRing (fields : Document) (elements : List Value) : Prop :=
  ∃ ring others, coordinateItems? fields = some (ring :: others) ∧ ring.items? = some elements

theorem firstRing_unique {fields : Document} {elements others : List Value}
    (h : FirstRing fields elements) (h' : FirstRing fields others) : elements = others := by
  obtain ⟨ring, rest, hitems, hring⟩ := h
  obtain ⟨ring', rest', hitems', hring'⟩ := h'
  obtain ⟨rfl, -⟩ := List.cons.inj (Option.some.inj (hitems.symm.trans hitems'))
  exact Option.some.inj (hring.symm.trans hring')

section
variable {fields : Document} {elements : List Value} {q : Polygon}

theorem Polygon.ofPointsField_ofRow (hrow : PointsRow fields elements) :
    Polygon.ofPointsField fields = (readPoints elements).bind fun points =>
      (Polygon.ofPoints points).orMalformed "polygon" := by
  unfold PointsRow fieldOrNull at hrow
  unfold Polygon.ofPointsField
  split
  · next hnull => cases (congrArg Value.items? hnull).symm.trans hrow
  · rw [hrow]
    rfl

theorem Polygon.ofPointsField_noRow (h : ∀ elements, ¬ PointsRow fields elements) :
    ∃ cause, Polygon.ofPointsField fields = .error (.malformedShape cause) := by
  unfold Polygon.ofPointsField
  split
  · exact ⟨_, rfl⟩
  · split
    · next elements hitems => exact absurd hitems (h elements)
    · exact ⟨_, rfl⟩

theorem Polygon.ofGeoJson_ofRing (hring : FirstRing fields elements) :
    Polygon.ofGeoJson fields = (readRing elements).bind fun points =>
      (Polygon.ofPoints points).orUnusable "GeoJson polygon" := by
  obtain ⟨ring, others, hitems, helements⟩ := hring
  rw [Polygon.ofGeoJson, hitems]
  simp only [helements]
  rfl

theorem Polygon.ofGeoJson_noRing (h : ∀ elements, ¬ FirstRing fields elements) :
    ∃ cause, Polygon.ofGeoJson fields = .error (.unusableArgument cause) := by
  unfold Polygon.ofGeoJson
  split
  · next ring others hitems =>
    split
    · next elements helements => exact absurd ⟨ring, others, hitems, helements⟩ (h elements)
    · exact ⟨_, rfl⟩
  · exact ⟨_, rfl⟩

/-- What is read by a row, if there is one, and then checked is the polygon of the points of that
row, of which there is at least one. -/
theorem Polygon.ofRow_eq_ok {Row : List Value → Prop} {r : Except Fault Polygon}
    {read : List Value → Except Fault (List Point)} {check : Verdict Polygon → Except Fault Polygon}
    (hrow : ∀ {elements}, Row elements →
      r = (read elements).bind fun points => check (Polygon.ofPoints points))
    (hnone : (∀ elements, ¬ Row elements) → ∃ e, r = .error e)
    (hcheck : ∀ {v}, check v = .ok q ↔ v = .accepted q) :
    r = .ok q ↔ q.Bounded ∧ ∃ elements, Row elements ∧ read elements = .ok q.points := by
  constructor
  · intro h
    obtain ⟨elements, helements⟩ : ∃ elements, Row elements := by
      by_contra hno
      obtain ⟨e, hfault⟩ := hnone (not_exists.mp hno)
      cases hfault.symm.trans h
    obtain ⟨points, hpoints, hq⟩ := bind_eq_ok.mp ((hrow helements).symm.trans h)
    obtain ⟨hbounded, rfl⟩ := Polygon.ofPoints_eq_accepted.mp (hcheck.mp hq)
    exact ⟨hbounded, elements, helements, hpoints⟩
  · rintro ⟨hbounded, elements, helements, hpoints⟩
    have hq : check (Polygon.ofPoints q.points) = .ok q :=
      hcheck.mpr (Polygon.ofPoints_eq_accepted.mpr ⟨hbounded, rfl⟩)
    exact (hrow helements).trans (bind_eq_ok.mpr ⟨q.points, hpoints, hq⟩)

/-- **A legacy document is read as the polygon of its row of points.** -/
theorem Polygon.ofPointsField_eq_ok : Polygon.ofPointsField fields = .ok q ↔
    q.Bounded ∧ ∃ elements, PointsRow fields elements ∧
      List.Forall₂ (fun v p => Point.ofValue v = .ok p) elements q.points := by
  have hnone : (∀ elements, ¬ PointsRow fields elements) →
      ∃ e, Polygon.ofPointsField fields = .error e := by
    intro h
    obtain ⟨cause, hfault⟩ := Polygon.ofPointsField_noRow h
    exact ⟨_, hfault⟩
  rw [Polygon.ofRow_eq_ok Polygon.ofPointsField_ofRow hnone Verdict.orMalformed_eq_ok]
  simp only [readPoints_eq_ok]

/-- **A GeoJSON document is read as the polygon of its first ring**, whatever rings come after
it. -/
theorem Polygon.ofGeoJson_eq_ok : Polygon.ofGeoJson fields = .ok q ↔
    q.Bounded ∧ ∃ elements, FirstRing fields elements ∧ RingStandsFor elements q.points := by
  have hnone : (∀ elements, ¬ FirstRing fields elements) →
      ∃ e, Polygon.ofGeoJson fields = .error e := by
    intro h
    obtain ⟨cause, hfault⟩ := Polygon.ofGeoJson_noRing h
    exact ⟨_, hfault⟩
  rw [Polygon.ofRow_eq_ok Polygon.ofGeoJson_ofRing hnone Verdict.orUnusable_eq_ok]
  simp only [readRing_eq_ok]

end

end ShapeCodec
