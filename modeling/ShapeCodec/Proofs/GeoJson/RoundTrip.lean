/-
# GeoJSON documents read back

A geometry is written the same whether it is bare or in a wrapper, and what is written is read
back. A point comes back as it was. A box becomes a ring of five pairs that walks along its
sides, and the first and the third of them are its corners again. A polygon comes back with
exactly its points where its walk is closed, and with its first point once more at the end where
it is open; nothing else is added, lost, moved or changed.

Whether a walk is closed goes by the comparison of its two ends, one coordinate at a time
(`Polygon.closed_iff_meet`). The two zeros do not differ. What is no number differs from every
number and from what else is none, so that it leaves a walk of several points open, unless both
ends hold it as one object. Then the walk is closed, and what is written of a polygon depends on
more than its numbers.

Key definitions: `Presents`, `Aligned`, `Polygon.Closed`, `Coincide`, `Meet`.
Key theorems: `Polygon.closed_eq_self`, `Polygon.closed_eq_append`, `Polygon.closed_iff_meet`,
`decode_encodeGeoJson`.
-/
import Mathlib
import ShapeCodec.GeoJson.Writer
import ShapeCodec.Proofs.Shape.Reading

namespace ShapeCodec

variable {shared : Sharing}

/-! ### Writing -/

/-- The values that stand for a geometry where GeoJSON is written: itself and its wrapper. -/
inductive Presents (geometry : Value) : Value → Prop where
  | bare : Presents geometry geometry
  | wrapped : Presents geometry (.geoJson geometry)

theorem encodeGeoJson_point {p : Point} {w : Value} (h : Presents (.point p) w) :
    encodeGeoJson shared w = .ok (some (geoJsonDocument "Point" p.pair)) := by
  cases h <;> rfl

theorem encodeGeoJson_box {b : Box} {w : Value} (h : Presents (.box b) w) :
    encodeGeoJson shared w = .ok (some (geoJsonDocument "Polygon" (ringCoordinates b.ring))) := by
  cases h <;> rfl

theorem encodeGeoJson_polygon {q : Polygon} {w : Value} {ring : List Point}
    (h : Presents (.polygon q) w) (hring : q.closed shared = some ring) :
    encodeGeoJson shared w = .ok (some (geoJsonDocument "Polygon" (ringCoordinates ring))) := by
  have hq : encodeGeometry shared (.polygon q) =
      .ok (geoJsonDocument "Polygon" (ringCoordinates ring)) := by
    rw [encodeGeometry, hring]
  cases h
  · show (encodeGeometry shared (.polygon q)).map some = _
    rw [hq]
    rfl
  · show (encodeGeometry shared (.polygon q)).map some = _
    rw [hq]
    rfl

/-! ### Reading -/

variable {ring : List Point}

theorem hasType_geoJsonDocument (type : String) (coordinates : Value) :
    hasType (geoJsonDocument type coordinates) type = true := by
  simp [hasType, geoJsonDocument, Value.isText, Value.text?]

theorem coordinateItems?_geoJsonDocument (type : String) (coordinates : Value) :
    coordinateItems? (geoJsonDocument type coordinates) = coordinates.items? := by
  simp [coordinateItems?, geoJsonDocument, List.lookup_cons]

theorem Point.ofGeoJson_pair (p : Point) :
    Point.ofGeoJson (geoJsonDocument "Point" p.pair) = .ok p := by
  rw [Point.ofGeoJson, coordinateItems?_geoJsonDocument]
  rfl

theorem Polygon.ofGeoJson_ring (h : ring ≠ []) :
    Polygon.ofGeoJson (geoJsonDocument "Polygon" (ringCoordinates ring)) = .ok ⟨ring⟩ := by
  rw [Polygon.ofGeoJson, coordinateItems?_geoJsonDocument]
  simp only [ringCoordinates, Value.items?, readRing_pair]
  show (Polygon.ofPoints ring).orUnusable _ = _
  rw [Polygon.ofPoints_of_ne_nil h]
  rfl

theorem Point.decode_document (fields : Document) :
    Point.decode (.document fields) = (Point.ofDocument fields).map some := rfl

theorem Point.decode_geoJson (p : Point) :
    Point.decode (.document (geoJsonDocument "Point" p.pair)) = .ok (some p) := by
  rw [Point.decode_document, Point.ofDocument, if_pos (hasType_geoJsonDocument _ _),
    Point.ofGeoJson_pair]
  rfl

theorem decodeGeoJson_ofType {type : String} {coordinates : Value} {g : Geometry}
    (h : Geometry.ofType type (geoJsonDocument type coordinates) = .ok g) :
    decodeGeoJson (.document (geoJsonDocument type coordinates)) = .ok (.geoJson g.toValue) := by
  have hfields : Geometry.ofFields (geoJsonDocument type coordinates) = .ok g := by
    rw [← h, Geometry.ofFields, geoJsonDocument, List.lookup_cons_self]
    rfl
  rw [decodeGeoJson, Geometry.decode, hfields]
  rfl

theorem decodeGeoJson_point (p : Point) :
    decodeGeoJson (.document (geoJsonDocument "Point" p.pair)) = .ok (.geoJson (.point p)) := by
  refine decodeGeoJson_ofType (g := .point p) ?_
  rw [Geometry.ofType, if_pos rfl, Point.ofGeoJson_pair]
  rfl

theorem Polygon.decode_geoJson (h : ring ≠ []) :
    Polygon.decode (.document (geoJsonDocument "Polygon" (ringCoordinates ring)))
      = .ok (some ⟨ring⟩) := by
  rw [Polygon.decode, Polygon.ofDocument, if_pos (hasType_geoJsonDocument _ _),
    Polygon.ofGeoJson_ring h]
  rfl

theorem decodeGeoJson_polygon (h : ring ≠ []) :
    decodeGeoJson (.document (geoJsonDocument "Polygon" (ringCoordinates ring)))
      = .ok (.geoJson (.polygon ⟨ring⟩)) := by
  refine decodeGeoJson_ofType (g := .polygon ⟨ring⟩) ?_
  rw [Geometry.ofType, if_neg (by decide), if_pos rfl, Polygon.ofGeoJson_ring h]
  rfl

/-! ### The ring of a box -/

/-- Points on a line along an axis, with one coordinate the very same. -/
def Aligned (p q : Point) : Prop := p.x = q.x ∨ p.y = q.y

theorem Box.ring_chain (b : Box) : b.ring.IsChain Aligned := by
  simp [Box.ring, Aligned]

theorem Box.decode_geoJson (b : Box) :
    Box.decode (.document (geoJsonDocument "Polygon" (ringCoordinates b.ring)))
      = .ok (some b) := by
  rw [Box.decode, Box.ofDocument, if_pos (hasType_geoJsonDocument _ _),
    Polygon.ofGeoJson_ring (by simp [Box.ring])]
  rfl

/-! ### The ring of a polygon -/

/-- A polygon whose walk ends where it began: it has a single point, or its first and its last
point are taken for equal. -/
def Polygon.Closed (shared : Sharing) (q : Polygon) : Prop :=
  q.points.length = 1 ∨
    ∃ first last, q.points.head? = some first ∧ q.points.getLast? = some last ∧
      first.meets shared last

/-- A polygon with points is one with a first point. -/
theorem Polygon.bounded_iff_head {q : Polygon} :
    q.Bounded ↔ ∃ first, q.points.head? = some first := by
  rw [← Option.isSome_iff_exists, List.isSome_head?, Polygon.Bounded]

theorem endsAt_iff (first : Point) (rest : List Point) :
    endsAt shared first rest = true ↔ Polygon.Closed shared ⟨first :: rest⟩ := by
  unfold endsAt Polygon.Closed
  rcases List.eq_nil_or_concat rest with rfl | ⟨middle, last, rfl⟩
  · simp
  · simp [List.getLast?_cons]

theorem Polygon.closed_eq_self {q : Polygon} (hq : q.Bounded) (h : q.Closed shared) :
    q.closed shared = some q.points := by
  obtain ⟨_ | ⟨first, rest⟩⟩ := q
  · exact absurd rfl hq
  · rw [Polygon.closed]
    simp only [(endsAt_iff first rest).mpr h, if_true]

theorem Polygon.closed_eq_append {q : Polygon} {first : Point} (hfirst : q.points.head? = some first)
    (h : ¬ q.Closed shared) : q.closed shared = some (q.points ++ [first]) := by
  obtain ⟨_ | ⟨p, rest⟩⟩ := q
  · cases hfirst
  · obtain rfl : p = first := by simpa using hfirst
    rw [Polygon.closed]
    simp only [(endsAt_iff p rest).not.mpr h]
    rfl

/-- A polygon with points has a closed walk. -/
theorem Polygon.exists_closed {q : Polygon} (h : q.Bounded) :
    ∃ ring, q.closed shared = some ring := by
  obtain ⟨first, hfirst⟩ := Polygon.bounded_iff_head.mp h
  by_cases hclosed : q.Closed shared
  · exact ⟨q.points, Polygon.closed_eq_self h hclosed⟩
  · exact ⟨q.points ++ [first], Polygon.closed_eq_append hfirst hclosed⟩

/-! ### The comparison of corners -/

/-- Doubles that compare equal: the very same number, or the two zeros. -/
def Coincide (a b : Float) : Prop := ¬ a.isNaN ∧ (a = b ∨ a = 0 ∧ b = -0 ∨ a = -0 ∧ b = 0)

theorem beq_iff_coincide {a b : Float} : a == b ↔ Coincide a b := by
  rw [Float.beq_iff_ne_nan_and_eq, Coincide, Float.isNaN_eq_decide_eq_nan, decide_eq_true_eq]
  constructor
  · rintro ⟨ha, -, h⟩
    exact ⟨ha, h⟩
  · rintro ⟨ha, h⟩
    refine ⟨ha, ?_, h⟩
    rcases h with rfl | ⟨-, rfl⟩ | ⟨-, rfl⟩
    · exact ha
    · decide +kernel
    · decide +kernel

theorem Point.beq_iff (p r : Point) : p == r ↔ Coincide p.x r.x ∧ Coincide p.y r.y := by
  rw [← beq_iff_coincide, ← beq_iff_coincide]
  exact Bool.and_eq_true _ _ ▸ Iff.rfl

/-- Coordinates that are taken for equal: numbers that compare equal, or one object that is no
number. -/
def Meet (shared : Bool) (a b : Float) : Prop := Coincide a b ∨ shared ∧ a.isNaN ∧ b.isNaN

theorem sameCoordinate_iff {shared : Bool} {a b : Float} :
    sameCoordinate shared a b ↔ Meet shared a b := by
  rw [Meet, ← beq_iff_coincide]
  simp [sameCoordinate, and_assoc]

theorem Point.meets_iff (p r : Point) :
    p.meets shared r ↔ Meet shared.x p.x r.x ∧ Meet shared.y p.y r.y := by
  rw [← sameCoordinate_iff, ← sameCoordinate_iff]
  exact Bool.and_eq_true _ _ ▸ Iff.rfl

theorem meet_iff_coincide {shared : Bool} {a b : Float} (ha : ¬ a.isNaN) :
    Meet shared a b ↔ Coincide a b :=
  or_iff_left fun h => ha h.2.1

/-- Points that compare equal are taken for equal, whatever they share. -/
theorem Point.meets_of_beq {p r : Point} (h : p == r) : p.meets shared r := by
  obtain ⟨hx, hy⟩ := (Point.beq_iff p r).mp h
  exact (Point.meets_iff p r).mpr ⟨Or.inl hx, Or.inl hy⟩

/-- **What two points share makes no difference if the first is equal to itself**, since then it
holds numbers. -/
theorem Point.meets_eq_beq {p r : Point} (hself : p == p) : p.meets shared r = (p == r) := by
  obtain ⟨⟨hx, -⟩, ⟨hy, -⟩⟩ := (Point.beq_iff p p).mp hself
  rw [Bool.eq_iff_iff, Point.meets_iff, Point.beq_iff, meet_iff_coincide hx, meet_iff_coincide hy]

/-- **Whether a walk of several points is closed goes by its two ends.** -/
theorem Polygon.closed_iff_meet (first : Point) (middle : List Point) (last : Point) :
    Polygon.Closed shared ⟨first :: (middle ++ [last])⟩ ↔
      Meet shared.x first.x last.x ∧ Meet shared.y first.y last.y := by
  rw [← Point.meets_iff, ← endsAt_iff, endsAt, List.getLast?_concat]

/-- A walk of several points that begins with what is no number is open, if its last point does not
hold the same object. -/
theorem Polygon.not_closed_of_nan {q : Polygon} {first : Point}
    (hfirst : q.points.head? = some first) (hlen : 1 < q.points.length)
    (hnan : first.x.isNaN ∧ ¬ shared.x ∨ first.y.isNaN ∧ ¬ shared.y) : ¬ q.Closed shared := by
  rintro (h | ⟨p, last, hp, -, heq⟩)
  · omega
  · obtain rfl : p = first := Option.some.inj (hp.symm.trans hfirst)
    obtain ⟨hx, hy⟩ := (Point.meets_iff p last).mp heq
    rcases hnan with ⟨hnan, hapart⟩ | ⟨hnan, hapart⟩
    · exact hx.elim (fun h => h.1 hnan) fun h => hapart h.1
    · exact hy.elim (fun h => h.1 hnan) fun h => hapart h.1

/-! ### All geometries -/

/-- **Every geometry is read back from its GeoJSON document**, written bare or in a wrapper. A
point and a box come back field for field, the box from a closed ring of five pairs along its
sides. A polygon comes back as it is where it is closed, and otherwise with its first point once
more at the end. Zeros of different signs close a walk. What is no number leaves it open, unless
the two ends of the walk hold it as one object, which closes it like a number. -/
theorem decode_encodeGeoJson (shared : Sharing) :
    (∀ p w, Presents (.point p) w → ∃ d, encodeGeoJson shared w = .ok (some d) ∧
      decodeGeoJson (.document d) = .ok (.geoJson (.point p)) ∧
      Point.decode (.document d) = .ok (some p)) ∧
    (∀ b w, Presents (.box b) w → ∃ ring : List Point,
      encodeGeoJson shared w = .ok (some (geoJsonDocument "Polygon" (ringCoordinates ring))) ∧
      ring.length = 5 ∧ ring.getLast? = ring.head? ∧ ring.IsChain Aligned ∧
      Box.decode (.document (geoJsonDocument "Polygon" (ringCoordinates ring)))
        = .ok (some b)) ∧
    (∀ (q : Polygon) (first : Point), q.points.head? = some first →
      (∀ w, Presents (.polygon q) w → ∃ d, encodeGeoJson shared w = .ok (some d) ∧
        (q.Closed shared → decodeGeoJson (.document d) = .ok (.geoJson (.polygon q)) ∧
          Polygon.decode (.document d) = .ok (some q)) ∧
        (¬ q.Closed shared →
          decodeGeoJson (.document d) = .ok (.geoJson (.polygon ⟨q.points ++ [first]⟩)) ∧
          Polygon.decode (.document d) = .ok (some ⟨q.points ++ [first]⟩))) ∧
      (1 < q.points.length → first.x.isNaN ∧ ¬ shared.x ∨ first.y.isNaN ∧ ¬ shared.y →
        ¬ q.Closed shared)) ∧
    ∀ first middle last, Polygon.Closed shared ⟨first :: (middle ++ [last])⟩ ↔
      Meet shared.x first.x last.x ∧ Meet shared.y first.y last.y := by
  refine ⟨fun p w hw => ?_, fun b w hw => ?_, fun q first hfirst => ⟨fun w hw => ?_, ?_⟩, ?_⟩
  · exact ⟨_, encodeGeoJson_point hw, decodeGeoJson_point p, Point.decode_geoJson p⟩
  · exact ⟨b.ring, encodeGeoJson_box hw, rfl, rfl, b.ring_chain, b.decode_geoJson⟩
  · have hne : q.points ≠ [] := by
      intro h
      rw [h] at hfirst
      cases hfirst
    by_cases hq : q.Closed shared
    · exact ⟨_, encodeGeoJson_polygon hw (Polygon.closed_eq_self hne hq),
        fun _ => ⟨decodeGeoJson_polygon hne, Polygon.decode_geoJson hne⟩, fun h => absurd hq h⟩
    · have happ : q.points ++ [first] ≠ [] := by simp
      exact ⟨_, encodeGeoJson_polygon hw (Polygon.closed_eq_append hfirst hq),
        fun h => absurd h hq, fun _ => ⟨decodeGeoJson_polygon happ, Polygon.decode_geoJson happ⟩⟩
  · exact Polygon.not_closed_of_nan hfirst
  · exact Polygon.closed_iff_meet

/-- A walk that begins and ends with what is no number, in a wrapper. Where the ends hold two
objects, it comes back with its first point at the end once more, and where they hold one, it comes
back as it was. -/
theorem decode_encodeGeoJson_nan :
    let p : Point := ⟨0.0 / 0.0, 1.0⟩
    let q : Polygon := ⟨[p, ⟨2.0, 3.0⟩, p]⟩
    (∃ d, encodeGeoJson .none (.geoJson (.polygon q)) = .ok (some d) ∧
      Polygon.decode (.document d) = .ok (some ⟨[p, ⟨2.0, 3.0⟩, p, p]⟩)) ∧
    ∃ d, encodeGeoJson .all (.geoJson (.polygon q)) = .ok (some d) ∧
      Polygon.decode (.document d) = .ok (some q) := by
  intro p q
  have hnan : p.x.isNaN = true := by decide +kernel
  have hone : Coincide p.y p.y := ⟨by decide +kernel, Or.inl rfl⟩
  constructor
  · obtain ⟨-, -, hpolygon, -⟩ := decode_encodeGeoJson .none
    obtain ⟨hread, hopen⟩ := hpolygon q p rfl
    obtain ⟨d, hd, -, hback⟩ := hread _ .wrapped
    exact ⟨d, hd, (hback (hopen (by decide) (Or.inl ⟨hnan, nofun⟩))).2⟩
  · obtain ⟨-, -, hpolygon, hends⟩ := decode_encodeGeoJson .all
    have hclosed : q.Closed .all :=
      (hends p [⟨2.0, 3.0⟩] p).mpr ⟨Or.inr ⟨rfl, hnan, hnan⟩, Or.inl hone⟩
    obtain ⟨d, hd, hback, -⟩ := (hpolygon q p rfl).1 _ .wrapped
    exact ⟨d, hd, (hback hclosed).2⟩

end ShapeCodec
