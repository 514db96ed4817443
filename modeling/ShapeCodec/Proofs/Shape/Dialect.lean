/-
# The two dialects of boxes and polygons

A document is read as a box or as a polygon in one of two dialects, and its type alone tells in
which. In a document of type `Polygon` only the ring is read: a polygon has all points of it, a box
the first and the third, and the fields of the legacy dialect are not looked at. In any other
document only these are read, the row of points of a polygon and the two corners of a box, and the
coordinates are not looked at. A document with the fields of both dialects is never read from both
(`decode_dialects`).

The ring is read as a whole, also by the reader of boxes. So an element that is no point stops that
reader wherever it stands, and a point other than the first and the third has no influence.

Key definitions: `Point.ReadFrom`, `RingDialect`, `PartsDialect`.
Key theorems: `decodeGeoJson_polygon_iff`, `Box.ofRing_eq_ok`, `Polygon.ofGeoJson_congr`,
`decode_dialects`.
-/
import ShapeCodec.Proofs.GeoJson.Grammar
import ShapeCodec.Proofs.Shape.Agreement

namespace ShapeCodec

variable {fields other : Document}

/-! ### Points that must be there -/

/-- A value that is not null and is read as a point. -/
def Point.ReadFrom (v : Value) (p : Point) : Prop := v ≠ .null ∧ Point.decode v = .ok (some p)

theorem Point.readFrom_iff {v : Value} {p : Point} :
    Point.ReadFrom v p ↔ Point.ofValue v = .ok p := by
  unfold Point.ReadFrom Point.decode
  split
  · have hnull : Point.ofValue .null ≠ .ok p := nofun
    simp [hnull]
  · next hv =>
    have hne : v ≠ .null := hv
    simp [map_eq_ok, hne]

/-- What null has not, a field has only where it is there. -/
theorem fieldOrNull_iff {P : Value → Prop} (hnull : ¬ P .null) {name : String} :
    P (fieldOrNull fields name) ↔ ∃ v, fields.lookup name = some v ∧ P v := by
  unfold fieldOrNull
  cases fields.lookup name with
  | none => simp [hnull]
  | some v => simp

theorem Point.readFrom_field {name : String} {p : Point} :
    Point.ofValue (fieldOrNull fields name) = .ok p ↔
      ∃ v, fields.lookup name = some v ∧ Point.ReadFrom v p := by
  simp only [Point.readFrom_iff]
  exact fieldOrNull_iff (P := fun v => Point.ofValue v = .ok p) nofun

/-! ### The dialect of rings -/

theorem not_both_types (hpolygon : OfType fields "Polygon") : ¬ OfType fields "Point" := by
  intro hpoint
  have heq : Value.text "Polygon" = .text "Point" := Option.some.inj (hpolygon.symm.trans hpoint)
  simp at heq

/-- A GeoJSON document of type `Polygon` is read as the polygon of its first ring or not at all. -/
theorem decodeGeoJson_polygon_iff (htype : OfType fields "Polygon") {w : Value} :
    decodeGeoJson (.document fields) = .ok w ↔
      ∃ q, Polygon.ofGeoJson fields = .ok q ∧ w = .geoJson (.polygon q) := by
  rw [decodeGeoJson_document]
  constructor
  · rintro ⟨g, rfl, hg⟩
    rcases Geometry.decode_eq_ok.mp hg with ⟨hpoint, -⟩ | ⟨-, q, hq, rfl⟩
    · exact absurd hpoint (not_both_types htype)
    · exact ⟨q, hq, rfl⟩
  · rintro ⟨q, hq, rfl⟩
    exact ⟨.polygon q, rfl, Geometry.decode_eq_ok.mpr (Or.inr ⟨htype, q, hq, rfl⟩)⟩

theorem Polygon.decode_ofRing (htype : OfType fields "Polygon") :
    Polygon.decode (.document fields) = (Polygon.ofGeoJson fields).map some := by
  rw [Polygon.decode, Polygon.ofDocument, if_pos ((hasType_iff begins_polygon).mpr htype)]

theorem Box.decode_ofRing (htype : OfType fields "Polygon") : Box.decode (.document fields) =
    ((Polygon.ofGeoJson fields).bind fun q => Box.ofRing q.points).map some := by
  rw [Box.decode, Box.ofDocument, if_pos ((hasType_iff begins_polygon).mpr htype)]
  rfl

/-- A ring tells a box if it has three points. -/
theorem Box.ofRing_eq_ok {ring : List Point} {b : Box} :
    Box.ofRing ring = .ok b ↔ ∃ h : 3 ≤ ring.length, b = ⟨ring[0], ring[2]⟩ := by
  match ring with
  | [] | [_] | [_, _] => simp [Box.ofRing]
  | first :: _ :: second :: rest => simp [Box.ofRing, eq_comm]

/-- A ring tells the box of its first and its third point, whatever the others are. -/
theorem Box.ofRing_eq (ring : List Point) : Box.ofRing ring =
    match ring[0]?, ring[2]? with
    | some first, some second => .ok ⟨first, second⟩
    | _, _ => .error (.malformedShape .ringTooShort) := by
  match ring with
  | [] | [_] | [_, _] | _ :: _ :: _ :: _ => simp [Box.ofRing]

theorem coordinateItems?_congr (h : other.lookup "coordinates" = fields.lookup "coordinates") :
    coordinateItems? other = coordinateItems? fields := by
  rw [coordinateItems?, coordinateItems?, h]

/-- Of a ring only the coordinates are read. -/
theorem Polygon.ofGeoJson_congr (h : other.lookup "coordinates" = fields.lookup "coordinates") :
    Polygon.ofGeoJson other = Polygon.ofGeoJson fields := by
  rw [Polygon.ofGeoJson, Polygon.ofGeoJson, coordinateItems?_congr h]

/-- A ring whose elements are all points is read, or has none. -/
theorem Polygon.ofGeoJson_whole {elements : List Value} (hring : FirstRing fields elements)
    (h : ∀ v ∈ elements, ∃ p, RingElement v p) :
    ∃ points, List.Forall₂ RingElement elements points ∧
      Polygon.ofGeoJson fields = (Polygon.ofPoints points).orUnusable "GeoJson polygon" := by
  obtain ⟨points, hpoints⟩ := exists_forall₂ h
  have hstands : RingStandsFor elements points := by
    simpa only [RingStandsFor, ← ringElement_iff] using hpoints
  have hread : readRing elements = .ok points := readRing_eq_ok.mpr hstands
  exact ⟨points, hpoints, by rw [Polygon.ofGeoJson_ofRing hring, hread]; rfl⟩

/-- An element of a ring is for one point. -/
theorem RingElement.unique {v : Value} {p q : Point} (hp : RingElement v p) (hq : RingElement v q) :
    p = q := by
  have hreadp : Point.ofRingElement v = .ok p :=
    Point.ofRingElement_eq_ok.mpr (ringElement_iff.mp hp)
  have hreadq : Point.ofRingElement v = .ok q :=
    Point.ofRingElement_eq_ok.mpr (ringElement_iff.mp hq)
  exact Except.ok.inj (hreadp.symm.trans hreadq)

/-- The points at a place of two rings that have the same element there. -/
theorem ringPoint_congr {elements elements' : List Value} {points points' : List Point}
    (h : List.Forall₂ RingElement elements points)
    (h' : List.Forall₂ RingElement elements' points') {i : ℕ}
    (hi : elements[i]? = elements'[i]?) : points[i]? = points'[i]? := by
  have hlength : elements.length = points.length := h.length_eq
  have hlength' : elements'.length = points'.length := h'.length_eq
  by_cases hin : i < elements.length
  · have hin' : i < elements'.length := by
      by_contra hout
      rw [List.getElem?_eq_getElem hin, List.getElem?_eq_none (Nat.le_of_not_lt hout)] at hi
      cases hi
    rw [List.getElem?_eq_getElem hin, List.getElem?_eq_getElem hin', Option.some.injEq] at hi
    have hp : RingElement elements[i] points[i] := h.get hin (hlength ▸ hin)
    have hp' : RingElement elements'[i] points'[i] := h'.get hin' (hlength' ▸ hin')
    rw [List.getElem?_eq_getElem (hlength ▸ hin), List.getElem?_eq_getElem (hlength' ▸ hin')]
    rw [← hi] at hp'
    rw [hp.unique hp']
  · have hout' : elements'.length ≤ i := by
      rw [List.getElem?_eq_none (Nat.le_of_not_lt hin)] at hi
      exact List.getElem?_eq_none_iff.mp hi.symm
    rw [List.getElem?_eq_none (by omega), List.getElem?_eq_none (by omega)]

/-- What is read of a document of type `Polygon`: the ring, and for a box its first and its third
point. The other fields are not looked at, an element of the ring that is no point is not passed
over, and the points beside the first and the third do not matter to a box. -/
structure RingDialect (fields : Document) : Prop where
  geoJson : ∀ w, decodeGeoJson (.document fields) = .ok w → ∃ q, w = .geoJson (.polygon q)
  polygon : ∀ r, Polygon.decode (.document fields) = .ok r ↔
    ∃ q, decodeGeoJson (.document fields) = .ok (.geoJson (.polygon q)) ∧ r = some q
  box : ∀ r, Box.decode (.document fields) = .ok r ↔
    ∃ q, decodeGeoJson (.document fields) = .ok (.geoJson (.polygon q)) ∧
      ∃ h : 3 ≤ q.points.length, r = some ⟨q.points[0], q.points[2]⟩
  untouched : ∀ other, OfType other "Polygon" →
    other.lookup "coordinates" = fields.lookup "coordinates" →
    Polygon.decode (.document other) = Polygon.decode (.document fields) ∧
      Box.decode (.document other) = Box.decode (.document fields)
  broken : ∀ elements v, FirstRing fields elements → v ∈ elements → (∀ p, ¬ RingElement v p) →
    ∃ e, Box.decode (.document fields) = .error e
  spared : ∀ other elements elements', OfType other "Polygon" →
    FirstRing fields elements → (∀ v ∈ elements, ∃ p, RingElement v p) →
    FirstRing other elements' → (∀ v ∈ elements', ∃ p, RingElement v p) →
    elements'[0]? = elements[0]? → elements'[2]? = elements[2]? →
    Box.decode (.document other) = Box.decode (.document fields)

theorem Box.decode_spared {elements elements' : List Value} (htype : OfType fields "Polygon")
    (htype' : OfType other "Polygon") (hring : FirstRing fields elements)
    (hwhole : ∀ v ∈ elements, ∃ p, RingElement v p) (hring' : FirstRing other elements')
    (hwhole' : ∀ v ∈ elements', ∃ p, RingElement v p) (hfirst : elements'[0]? = elements[0]?)
    (hthird : elements'[2]? = elements[2]?) :
    Box.decode (.document other) = Box.decode (.document fields) := by
  obtain ⟨points, hpoints, hread⟩ := Polygon.ofGeoJson_whole hring hwhole
  obtain ⟨points', hpoints', hread'⟩ := Polygon.ofGeoJson_whole hring' hwhole'
  have hp : points'[0]? = points[0]? := ringPoint_congr hpoints' hpoints hfirst
  have hq : points'[2]? = points[2]? := ringPoint_congr hpoints' hpoints hthird
  rw [Box.decode_ofRing htype, Box.decode_ofRing htype', hread, hread']
  -- without a first point both rings are empty, and neither is a polygon
  by_cases hnil : points = []
  · have hnil' : points' = [] := by simpa [hnil] using hp
    rw [hnil, hnil']
  · have hnil' : points' ≠ [] := by
      rintro rfl
      exact hnil (by simpa using hp.symm)
    rw [Polygon.ofPoints_of_ne_nil hnil, Polygon.ofPoints_of_ne_nil hnil']
    show (Box.ofRing points').map some = (Box.ofRing points).map some
    rw [Box.ofRing_eq, Box.ofRing_eq, hp, hq]

theorem ringDialect (htype : OfType fields "Polygon") : RingDialect fields where
  geoJson w hw := by
    obtain ⟨q, -, rfl⟩ := (decodeGeoJson_polygon_iff htype).mp hw
    exact ⟨q, rfl⟩
  polygon r := by
    rw [Polygon.decode_ofRing htype, map_eq_ok]
    simp [decodeGeoJson_polygon_iff htype, eq_comm]
  box r := by
    rw [Box.decode_ofRing htype, map_eq_ok]
    simp only [bind_eq_ok, Box.ofRing_eq_ok, decodeGeoJson_polygon_iff htype]
    constructor
    · rintro ⟨b, ⟨q, hq, hlength, rfl⟩, rfl⟩
      exact ⟨q, ⟨q, hq, rfl⟩, hlength, rfl⟩
    · rintro ⟨q, ⟨_, hq, ⟨⟩⟩, hlength, rfl⟩
      exact ⟨_, ⟨q, hq, hlength, rfl⟩, rfl⟩
  untouched other htype' hcoordinates := by
    have hring : Polygon.ofGeoJson other = Polygon.ofGeoJson fields :=
      Polygon.ofGeoJson_congr hcoordinates
    rw [Polygon.decode_ofRing htype, Polygon.decode_ofRing htype', Box.decode_ofRing htype,
      Box.decode_ofRing htype', hring]
    exact ⟨rfl, rfl⟩
  broken elements v hring hv hbroken := by
    cases hread : Polygon.ofGeoJson fields with
    | error e => exact ⟨e, by rw [Box.decode_ofRing htype, hread]; rfl⟩
    | ok q =>
      obtain ⟨-, elements', hring', hstands⟩ := Polygon.ofGeoJson_eq_ok.mp hread
      obtain rfl := firstRing_unique hring hring'
      have hwhole : ∀ u ∈ elements, ∃ p, RingElement u p :=
        forall₂_left (p := fun u => ∃ p, RingElement u p) (q := fun _ => True) hstands
          (fun _ _ => trivial) fun u p hu _ => ⟨p, ringElement_iff.mpr hu⟩
      obtain ⟨p, hp⟩ := hwhole v hv
      exact absurd hp (hbroken p)
  spared other elements elements' htype' hring hwhole hring' hwhole' :=
    Box.decode_spared htype htype' hring hwhole hring' hwhole'

/-! ### The dialect of parts -/

/-- What is read of a document of any other type, or of none: the row of points of a polygon and
the corners of a box, each of which must be there. The coordinates are not looked at. -/
structure PartsDialect (fields : Document) : Prop where
  polygon : ∀ r, Polygon.decode (.document fields) = .ok r ↔
    ∃ v elements q, fields.lookup "points" = some v ∧ v.items? = some elements ∧ elements ≠ [] ∧
      List.Forall₂ Point.ReadFrom elements q.points ∧ r = some q
  box : ∀ r, Box.decode (.document fields) = .ok r ↔
    ∃ first second b, fields.lookup "first" = some first ∧ fields.lookup "second" = some second ∧
      Point.ReadFrom first b.first ∧ Point.ReadFrom second b.second ∧ r = some b
  untouchedPolygon : ∀ other, ¬ OfType other "Polygon" →
    other.lookup "points" = fields.lookup "points" →
    Polygon.decode (.document other) = Polygon.decode (.document fields)
  untouchedBox : ∀ other, ¬ OfType other "Polygon" →
    other.lookup "first" = fields.lookup "first" → other.lookup "second" = fields.lookup "second" →
    Box.decode (.document other) = Box.decode (.document fields)

theorem hasType_of_not (htype : ¬ OfType fields "Polygon") : hasType fields "Polygon" = false := by
  rw [← Bool.not_eq_true]
  exact mt (hasType_iff begins_polygon).mp htype

theorem rowOf_iff {q : Polygon} : RowOf (fun v p => Point.ofValue v = .ok p) fields q ↔
    ∃ v elements, fields.lookup "points" = some v ∧ v.items? = some elements ∧ elements ≠ [] ∧
      List.Forall₂ Point.ReadFrom elements q.points := by
  simp only [RowOf, ← Point.readFrom_iff]
  rw [fieldOrNull_iff (P := fun v => ∃ elements, v.items? = some elements ∧ q.Bounded ∧
    List.Forall₂ Point.ReadFrom elements q.points) (by simp [Value.items?])]
  constructor
  · rintro ⟨v, hv, elements, hitems, hbounded, hrow⟩
    exact ⟨v, elements, hv, hitems, (Polygon.bounded_iff hrow).mp hbounded, hrow⟩
  · rintro ⟨v, elements, hv, hitems, hne, hrow⟩
    exact ⟨v, hv, elements, hitems, (Polygon.bounded_iff hrow).mpr hne, hrow⟩

theorem partsDialect (htype : ¬ OfType fields "Polygon") : PartsDialect fields where
  polygon r := by
    rw [Polygon.decode, map_eq_ok]
    simp only [Polygon.ofDocument_eq_ok (hasType_of_not htype), rowOf_iff]
    constructor
    · rintro ⟨q, ⟨v, elements, hv, hitems, hne, hrow⟩, rfl⟩
      exact ⟨v, elements, q, hv, hitems, hne, hrow, rfl⟩
    · rintro ⟨v, elements, q, hv, hitems, hne, hrow, rfl⟩
      exact ⟨q, ⟨v, elements, hv, hitems, hne, hrow⟩, rfl⟩
  box r := by
    rw [Box.decode, map_eq_ok]
    simp only [Box.ofDocument_eq_ok (hasType_of_not htype), Point.readFrom_field]
    constructor
    · rintro ⟨b, ⟨⟨first, hfirst, hp⟩, second, hsecond, hq⟩, rfl⟩
      exact ⟨first, second, b, hfirst, hsecond, hp, hq, rfl⟩
    · rintro ⟨first, second, b, hfirst, hsecond, hp, hq, rfl⟩
      exact ⟨b, ⟨⟨first, hfirst, hp⟩, second, hsecond, hq⟩, rfl⟩
  untouchedPolygon other htype' hpoints := by
    have hrow : Polygon.ofPointsField other = Polygon.ofPointsField fields := by
      rw [Polygon.ofPointsField, Polygon.ofPointsField, hpoints]
    rw [Polygon.decode, Polygon.decode, Polygon.ofDocument, Polygon.ofDocument,
      hasType_of_not htype, hasType_of_not htype', hrow]
    rfl
  untouchedBox other htype' hfirst hsecond := by
    have hcorner : pointField other "first" = pointField fields "first" := by
      rw [pointField, pointField, hfirst]
    have hcorner' : pointField other "second" = pointField fields "second" := by
      rw [pointField, pointField, hsecond]
    rw [Box.decode, Box.decode, Box.ofDocument, Box.ofDocument, hasType_of_not htype,
      hasType_of_not htype', hcorner, hcorner']
    rfl

/-! ### All sources -/

theorem Polygon.decode_eq_none {v : Value} : Polygon.decode v = .ok none ↔ v = .null := by
  cases v with
  | null => exact iff_of_true rfl rfl
  | document fields => simp [Polygon.decode, map_eq_ok]
  | _ => simp [Polygon.decode]

theorem Box.decode_eq_none {v : Value} : Box.decode v = .ok none ↔ v = .null := by
  cases v with
  | null => exact iff_of_true rfl rfl
  | document fields => simp [Box.decode, map_eq_ok]
  | _ => simp [Box.decode]

/-- **Boxes and polygons are read in two dialects, which are never mixed.** A document of type
`Polygon` is read by its ring and any other document by its parts, and in neither is anything read
that belongs to the other. A source that is no document is refused, but for null, and nothing is
read from null alone. -/
theorem decode_dialects :
    (∀ fields, OfType fields "Polygon" → RingDialect fields) ∧
    (∀ fields, ¬ OfType fields "Polygon" → PartsDialect fields) ∧
    (∀ v, v ≠ .null → (∀ fields, v ≠ .document fields) →
      (∃ e, Polygon.decode v = .error e) ∧ ∃ e, Box.decode v = .error e) ∧
    ∀ v, (Polygon.decode v = .ok none ↔ v = .null) ∧ (Box.decode v = .ok none ↔ v = .null) := by
  refine ⟨fun _ => ringDialect, fun _ => partsDialect, fun v hnull hdocument => ?_, fun v => ?_⟩
  · cases v with
    | null => exact absurd rfl hnull
    | document fields => exact absurd rfl (hdocument fields)
    | _ => exact ⟨⟨_, rfl⟩, _, rfl⟩
  · exact ⟨Polygon.decode_eq_none, Box.decode_eq_none⟩

/-- A document with the fields of both dialects, with a type and without one: its ring tells another
box and another polygon than its parts. -/
theorem decode_dialects_mixed :
    let p : Point := ⟨1.0, 2.0⟩
    let q : Point := ⟨3.0, 4.0⟩
    let r : Point := ⟨5.0, 6.0⟩
    let parts : Document := [("first", r.pair), ("second", .document q.encode),
      ("points", .tuple [q.pair]),
      ("coordinates", .list [.list [p.pair, .document q.encode, r.pair]])]
    let ring : Document := ("type", .text "Polygon") :: parts
    OfType ring "Polygon" ∧ Box.decode (.document ring) = .ok (some ⟨p, r⟩) ∧
      Polygon.decode (.document ring) = .ok (some ⟨[p, q, r]⟩) ∧
      ¬ OfType parts "Polygon" ∧ Box.decode (.document parts) = .ok (some ⟨r, q⟩) ∧
      Polygon.decode (.document parts) = .ok (some ⟨[q]⟩) := by
  intro p q r parts ring
  have htype : OfType ring "Polygon" := rfl
  have hring : decodeGeoJson (.document ring) = .ok (.geoJson (.polygon ⟨[p, q, r]⟩)) := rfl
  have huntyped : ¬ OfType parts "Polygon" := nofun
  have hq : Point.ReadFrom q.pair q := ⟨nofun, rfl⟩
  have hr : Point.ReadFrom r.pair r := ⟨nofun, rfl⟩
  have hfields : Point.ReadFrom (.document q.encode) q := ⟨nofun, rfl⟩
  have hdialect : RingDialect ring := decode_dialects.1 ring htype
  have hparts : PartsDialect parts := decode_dialects.2.1 parts huntyped
  refine ⟨htype, ?_, ?_, huntyped, ?_, ?_⟩
  · exact (hdialect.box _).mpr ⟨_, hring, by decide, rfl⟩
  · exact (hdialect.polygon _).mpr ⟨_, hring, rfl⟩
  · exact (hparts.box _).mpr ⟨_, _, _, rfl, rfl, hr, hfields, rfl⟩
  · exact (hparts.polygon _).mpr ⟨_, [q.pair], ⟨[q]⟩, rfl, rfl, by simp, .cons hq .nil, rfl⟩

end ShapeCodec
