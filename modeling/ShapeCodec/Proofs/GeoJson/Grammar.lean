/-
# The grammar of GeoJSON documents

What is read as a GeoJSON document is told by a grammar: a point is a pair of numbers, a polygon a
row of rings of which the first has elements, and an element of a ring is a pair of numbers or a
document of exactly two. The grammar tells with each document the geometry that it is for, number
by number. The reader accepts a value if and only if it is a document of the grammar, and gives the
geometry of it (`decodeGeoJson_grammar`). No type but a text is accepted, although types go by the
text they show, and nothing that comes after the first ring has any influence.

Key definitions: `Value.WidensTo`, `RingElement`, `GeoJsonDocument`.
Key theorems: `decodeGeoJson_eq_ok`, `decodeGeoJson_first_ring`, `decodeGeoJson_grammar`.
-/
import ShapeCodec.Proofs.Double.Finite
import ShapeCodec.Proofs.GeoJson.NormalForm

namespace ShapeCodec

/-! ### Numbers -/

/-- A number and the double it is widened to: a double is itself, and a whole number is the double
nearest to it, which must be finite. Truth values are no numbers. -/
inductive Value.WidensTo : Value → Float → Prop
  | float (x : Float) : WidensTo (.float x) x
  | int {n : ℤ} (h : (Float.ofInt n).isFinite = true) : WidensTo (.int n) (Float.ofInt n)

theorem Value.denotes_iff {v : Value} {x : Float} : v.Denotes x ↔ v.WidensTo x := by
  constructor
  · rintro (rfl | ⟨n, rfl, hn⟩)
    · exact .float x
    · obtain ⟨hfinite, rfl⟩ := floatOfInt?_eq_some.mp hn
      exact .int hfinite
  · intro h
    cases h with
    | float => exact Or.inl rfl
    | int hfinite => exact Or.inr ⟨_, rfl, floatOfInt?_eq_some.mpr ⟨hfinite, rfl⟩⟩

/-! ### The grammar -/

/-- An element of a ring and the point it is for. -/
inductive RingElement : Value → Point → Prop
  | pair {v x y : Value} {p : Point} (h : v.items? = some [x, y]) (hx : x.WidensTo p.x)
    (hy : y.WidensTo p.y) : RingElement v p
  | document {fields : Document} {x y : Value} {p : Point} (hlength : fields.length = 2)
    (hfieldx : fields.lookup "x" = some x) (hfieldy : fields.lookup "y" = some y)
    (hx : x.WidensTo p.x) (hy : y.WidensTo p.y) : RingElement (.document fields) p

/-- A GeoJSON document and the geometry it is for. -/
inductive GeoJsonDocument : Document → Geometry → Prop
  | point {fields : Document} {coordinates x y : Value} {p : Point}
    (htype : fields.lookup "type" = some (.text "Point"))
    (hfield : fields.lookup "coordinates" = some coordinates)
    (hpair : coordinates.items? = some [x, y])
    (hx : x.WidensTo p.x) (hy : y.WidensTo p.y) : GeoJsonDocument fields (.point p)
  | polygon {fields : Document} {coordinates ring : Value} {others elements : List Value}
    {q : Polygon} (htype : fields.lookup "type" = some (.text "Polygon"))
    (hfield : fields.lookup "coordinates" = some coordinates)
    (hrings : coordinates.items? = some (ring :: others)) (hring : ring.items? = some elements)
    (hne : elements ≠ []) (hpoints : List.Forall₂ RingElement elements q.points) :
    GeoJsonDocument fields (.polygon q)

theorem ringElement_iff {v : Value} {p : Point} :
    RingElement v p ↔ p.StandsAt (RingCoordinates v) := by
  constructor
  · intro h
    cases h with
    | pair h hx hy =>
      exact ⟨_, _, Or.inl h, Value.denotes_iff.mpr hx, Value.denotes_iff.mpr hy⟩
    | document hlength hfieldx hfieldy hx hy =>
      exact ⟨_, _, Or.inr ⟨_, rfl, hlength, hfieldx, hfieldy⟩, Value.denotes_iff.mpr hx,
        Value.denotes_iff.mpr hy⟩
  · rintro ⟨x, y, hpair | ⟨fields, rfl, hlength, hfieldx, hfieldy⟩, hx, hy⟩
    · exact .pair hpair (Value.denotes_iff.mp hx) (Value.denotes_iff.mp hy)
    · exact .document hlength hfieldx hfieldy (Value.denotes_iff.mp hx) (Value.denotes_iff.mp hy)

theorem coordinateItems?_eq_some {fields : Document} {items : List Value} :
    coordinateItems? fields = some items ↔
      ∃ coordinates, fields.lookup "coordinates" = some coordinates ∧
        coordinates.items? = some items := by
  rw [coordinateItems?, Option.bind_eq_some_iff]

/-- A row and the points it is taken for are of one length. -/
theorem Polygon.bounded_iff {taken : Value → Point → Prop} {q : Polygon} {elements : List Value}
    (h : List.Forall₂ taken elements q.points) : q.Bounded ↔ elements ≠ [] := by
  obtain ⟨points⟩ := q
  unfold Polygon.Bounded
  cases h with
  | nil => simp
  | cons => simp

theorem Point.ofGeoJson_grammar {fields : Document} {p : Point}
    (htype : OfType fields "Point") :
    Point.ofGeoJson fields = .ok p ↔ GeoJsonDocument fields (.point p) := by
  rw [Point.ofGeoJson_eq_ok]
  constructor
  · rintro ⟨x, y, hpair, hx, hy⟩
    obtain ⟨coordinates, hfield, hitems⟩ := coordinateItems?_eq_some.mp hpair
    exact .point htype hfield hitems (Value.denotes_iff.mp hx) (Value.denotes_iff.mp hy)
  · intro h
    cases h with
    | point _ hfield hitems hx hy =>
      exact ⟨_, _, coordinateItems?_eq_some.mpr ⟨_, hfield, hitems⟩, Value.denotes_iff.mpr hx,
        Value.denotes_iff.mpr hy⟩

theorem Polygon.ofGeoJson_grammar {fields : Document} {q : Polygon}
    (htype : OfType fields "Polygon") :
    Polygon.ofGeoJson fields = .ok q ↔ GeoJsonDocument fields (.polygon q) := by
  rw [Polygon.ofGeoJson_eq_ok]
  simp only [RingStandsFor, ← ringElement_iff]
  constructor
  · rintro ⟨hbounded, elements, ⟨ring, others, hitems, hring⟩, hpoints⟩
    obtain ⟨coordinates, hfield, hrings⟩ := coordinateItems?_eq_some.mp hitems
    exact .polygon htype hfield hrings hring ((Polygon.bounded_iff hpoints).mp hbounded) hpoints
  · intro h
    cases h with
    | polygon _ hfield hrings hring hne hpoints =>
      exact ⟨(Polygon.bounded_iff hpoints).mpr hne, _,
        ⟨_, _, coordinateItems?_eq_some.mpr ⟨_, hfield, hrings⟩, hring⟩, hpoints⟩

/-! ### The reader -/

theorem Geometry.decode_grammar {fields : Document} {g : Geometry} :
    Geometry.decode (.document fields) = .ok (some g) ↔ GeoJsonDocument fields g := by
  rw [Geometry.decode_eq_ok]
  constructor
  · rintro (⟨htype, p, hread, rfl⟩ | ⟨htype, q, hread, rfl⟩)
    · exact (Point.ofGeoJson_grammar htype).mp hread
    · exact (Polygon.ofGeoJson_grammar htype).mp hread
  · intro h
    have hread := h
    cases h with
    | point htype =>
      exact Or.inl ⟨htype, _, (Point.ofGeoJson_grammar htype).mpr hread, rfl⟩
    | polygon htype =>
      exact Or.inr ⟨htype, _, (Polygon.ofGeoJson_grammar htype).mpr hread, rfl⟩

/-- What is read, from any value but null, is the geometry of a document of the grammar. -/
theorem decodeGeoJson_eq_ok {v w : Value} (hv : v ≠ .null) : decodeGeoJson v = .ok w ↔
    ∃ fields g, v = .document fields ∧ GeoJsonDocument fields g ∧ w = .geoJson g.toValue := by
  cases v with
  | null => exact absurd rfl hv
  | document fields =>
    rw [decodeGeoJson_document]
    simp only [Geometry.decode_grammar]
    constructor
    · rintro ⟨g, rfl, hg⟩
      exact ⟨fields, g, rfl, hg, rfl⟩
    · rintro ⟨_, g, hdocument, hg, rfl⟩
      obtain rfl := Value.document.inj hdocument
      exact ⟨g, rfl, hg⟩
  | _ => exact iff_of_false nofun (by rintro ⟨_, _, hdocument, -⟩; cases hdocument)

/-- Two documents of one type, which is no point, that agree in their first ring have the same
outcome, whatever else stands in them. -/
theorem decodeGeoJson_first_ring {fields fields' : Document} {type ring : Value}
    {others others' : List Value} (htype : fields.lookup "type" = some type)
    (htype' : fields'.lookup "type" = some type) (hpoint : type ≠ .text "Point")
    (hrings : coordinateItems? fields = some (ring :: others))
    (hrings' : coordinateItems? fields' = some (ring :: others')) :
    decodeGeoJson (.document fields) = decodeGeoJson (.document fields') := by
  have hpolygon : Polygon.ofGeoJson fields = Polygon.ofGeoJson fields' := by
    rw [Polygon.ofGeoJson, Polygon.ofGeoJson, hrings, hrings']
  have hread : Geometry.ofFields fields = Geometry.ofFields fields' := by
    rw [Geometry.ofFields, Geometry.ofFields, htype, htype']
    simp only
    cases hname : type.display with
    | error e => rfl
    | ok name =>
      have hne : name ≠ "Point" := by
        rintro rfl
        exact hpoint ((Value.display_eq_ok_iff begins_point).mp hname)
      show Geometry.ofType name fields = Geometry.ofType name fields'
      rw [Geometry.ofType, Geometry.ofType, if_neg hne, if_neg hne, hpolygon]
  rw [decodeGeoJson, decodeGeoJson, Geometry.decode, Geometry.decode, hread]

theorem GeoJsonDocument.type_text {fields : Document} {g : Geometry}
    (h : GeoJsonDocument fields g) : ∃ name, fields.lookup "type" = some (.text name) := by
  cases h with
  | point htype => exact ⟨_, htype⟩
  | polygon htype => exact ⟨_, htype⟩

/-- **The reader of GeoJSON accepts exactly its grammar.** From any value but null it succeeds if
and only if the value is a document of the grammar, and it gives the geometry that this document is
for. A type that is no text is never accepted. Two documents of type polygon with the same first
ring are read to the same result or fail with the same fault, whatever rings come after it. -/
theorem decodeGeoJson_grammar {v : Value} (hv : v ≠ .null) :
    ((∃ w, decodeGeoJson v = .ok w) ↔ ∃ fields g, v = .document fields ∧ GeoJsonDocument fields g) ∧
    (∀ w, decodeGeoJson v = .ok w ↔
      ∃ fields g, v = .document fields ∧ GeoJsonDocument fields g ∧ w = .geoJson g.toValue) ∧
    (∀ fields type, v = .document fields → fields.lookup "type" = some type →
      (∀ name, type ≠ .text name) → ∃ e, decodeGeoJson v = .error e) ∧
    ∀ fields fields' ring others others', v = .document fields →
      fields.lookup "type" = some (.text "Polygon") →
      fields'.lookup "type" = some (.text "Polygon") →
      coordinateItems? fields = some (ring :: others) →
      coordinateItems? fields' = some (ring :: others') →
      decodeGeoJson (.document fields') = decodeGeoJson v := by
  refine ⟨?_, fun w => decodeGeoJson_eq_ok hv, ?_, ?_⟩
  · simp only [decodeGeoJson_eq_ok hv]
    constructor
    · rintro ⟨w, fields, g, hdocument, hg, -⟩
      exact ⟨fields, g, hdocument, hg⟩
    · rintro ⟨fields, g, hdocument, hg⟩
      exact ⟨_, fields, g, hdocument, hg, rfl⟩
  · rintro fields type rfl htype hother
    cases hread : decodeGeoJson (.document fields) with
    | error e => exact ⟨e, rfl⟩
    | ok w =>
      obtain ⟨_, g, hdocument, hg, -⟩ := (decodeGeoJson_eq_ok hv).mp hread
      obtain rfl := Value.document.inj hdocument
      obtain ⟨name, hname⟩ := hg.type_text
      exact absurd (Option.some.inj (htype.symm.trans hname)) (hother name)
  · rintro fields fields' ring others others' rfl htype htype' hrings hrings'
    exact decodeGeoJson_first_ring htype' htype (by simp) hrings' hrings

/-- A ring of a pair of whole numbers and of a document, with a second ring that is none. -/
theorem decodeGeoJson_grammar_mixed :
    let ring : Value := .list [.tuple [.int 1, .int 2],
      .document [("y", .float 0.5), ("x", .int (-3))]]
    let v : Value := .document [("type", .text "Polygon"), ("coordinates", .list [ring, .bool true])]
    v ≠ .null ∧ decodeGeoJson v = .ok (.geoJson (.polygon
      ⟨[⟨Float.ofInt 1, Float.ofInt 2⟩, ⟨Float.ofInt (-3), 0.5⟩]⟩)) := by
  intro ring v
  have hv : v ≠ .null := nofun
  have hpair : RingElement (.tuple [.int 1, .int 2]) ⟨Float.ofInt 1, Float.ofInt 2⟩ :=
    .pair rfl (.int (by decide +kernel)) (.int (by decide +kernel))
  have hfields : RingElement (.document [("y", .float 0.5), ("x", .int (-3))])
      ⟨Float.ofInt (-3), 0.5⟩ :=
    .document rfl rfl rfl (.int (by decide +kernel)) (.float 0.5)
  have hdocument : GeoJsonDocument [("type", .text "Polygon"),
      ("coordinates", .list [ring, .bool true])]
      (.polygon ⟨[⟨Float.ofInt 1, Float.ofInt 2⟩, ⟨Float.ofInt (-3), 0.5⟩]⟩) :=
    .polygon rfl rfl rfl rfl (List.cons_ne_nil _ _) (.cons hpair (.cons hfields .nil))
  exact ⟨hv, ((decodeGeoJson_grammar hv).2.1 _).mpr ⟨_, _, rfl, hdocument, rfl⟩⟩

end ShapeCodec
