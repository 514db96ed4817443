/-
# The type of a wrapper

A wrapper around a geometry knows its GeoJSON type, and works it out for itself; it does not ask
the writer. What has a type and what is written are told here apart, each by the forms of the
geometry (`HasGeoJsonType`, `WrittenAs`), and the computed type and the writer are brought to them,
each on its own (`geoJsonType_eq_ok`, `encodeGeometry_eq_ok`).

The two lists of forms have the same types, and differ in one place. A list or tuple has the type of
a point whatever it holds, but is written only as a pair of numbers. A polygon without points has a
type and no ring, but there is none. So what is written has the type of its document, what has a
type is written but for such a row, and what has none is not written, for the same fault
(`geoJsonType_agrees`). An object of another class has the last word on its type and coordinates.

Key definitions: `HasGeoJsonType`, `WrittenAs`.
Key theorems: `geoJsonType_eq_ok`, `encodeGeometry_eq_ok`, `encodeGeometry_untyped`,
`geoJsonType_agrees`.
-/
import ShapeCodec.Proofs.GeoJson.Pair

namespace ShapeCodec

variable {g v : Value} {type : String} {coordinates : Value} {attributes : Document}
  {shared : Sharing}

/-! ### Objects of other classes -/

/-- The attributes by which an object describes itself as a geometry. The type must be text. -/
structure Describes (attributes : Document) (type : String) (coordinates : Value) : Prop where
  type : ∃ t, attributes.lookup "type" = some t ∧ t.text? = some type
  coordinates : attributes.lookup "coordinates" = some coordinates

theorem typeAndCoordinates?_eq_some : typeAndCoordinates? attributes = some (type, coordinates) ↔
    Describes attributes type coordinates := by
  have htype : (attributes.lookup "type").bind Value.text? = some type ↔
      ∃ t, attributes.lookup "type" = some t ∧ t.text? = some type := Option.bind_eq_some_iff
  unfold typeAndCoordinates?
  constructor
  · intro h
    split at h
    · next name c hname hc =>
      obtain ⟨rfl, rfl⟩ := Prod.mk.inj (Option.some.inj h)
      exact ⟨htype.mp hname, hc⟩
    · cases h
  · rintro ⟨hname, hc⟩
    rw [htype.mpr hname, hc]

/-! ### What has a type -/

/-- A geometry and its GeoJSON type. -/
inductive HasGeoJsonType : Value → String → Prop
  | point (p : Point) : HasGeoJsonType (.point p) "Point"
  | row {v : Value} {items : List Value} (h : v.items? = some items) : HasGeoJsonType v "Point"
  | box (b : Box) : HasGeoJsonType (.box b) "Polygon"
  | polygon (q : Polygon) : HasGeoJsonType (.polygon q) "Polygon"
  | custom {className type : String} {attributes : Document} {coordinates : Value}
    (h : Describes attributes type coordinates) :
    HasGeoJsonType (.foreign className attributes) type

theorem geoJsonType_eq_ok : g.geoJsonType = .ok type ↔ HasGeoJsonType g type := by
  have hsome : g.geoJsonType = .ok type ↔ g.geoJsonType? = some type := by
    unfold Value.geoJsonType
    cases g.geoJsonType? <;> simp
  rw [hsome]
  constructor
  · intro h
    cases g with
    | point p =>
      obtain rfl := Option.some.inj h
      exact .point p
    | list items | tuple items =>
      obtain rfl := Option.some.inj h
      exact .row rfl
    | box b =>
      obtain rfl := Option.some.inj h
      exact .box b
    | polygon q =>
      obtain rfl := Option.some.inj h
      exact .polygon q
    | foreign className attributes =>
      obtain ⟨⟨name, coordinates⟩, hdescribes, rfl⟩ := Option.map_eq_some_iff.mp h
      exact .custom (typeAndCoordinates?_eq_some.mp hdescribes)
    | _ => cases h
  · intro h
    cases h with
    | point | box | polygon => rfl
    | row hitems => rcases Value.items?_eq_some.mp hitems with rfl | rfl <;> rfl
    | custom hdescribes =>
      rw [Value.geoJsonType?, typeAndCoordinates?_eq_some.mpr hdescribes, Option.map_some]

/-! ### What is written -/

/-- A geometry, and the type and the coordinates of the document as which it is written. The ends of
a polygon share some coordinates. -/
inductive WrittenAs (shared : Sharing) : Value → String → Value → Prop
  | point (p : Point) : WrittenAs shared (.point p) "Point" p.pair
  | row {v : Value} {items : List Value} {p : Point} (h : v.items? = some items)
    (hpair : NumberPair items p) : WrittenAs shared v "Point" p.pair
  | box (b : Box) : WrittenAs shared (.box b) "Polygon" (ringCoordinates b.ring)
  | polygon {q : Polygon} {ring : List Point} (hring : q.closed shared = some ring) :
    WrittenAs shared (.polygon q) "Polygon" (ringCoordinates ring)
  | custom {className type : String} {attributes : Document} {coordinates : Value}
    (h : Describes attributes type coordinates) :
    WrittenAs shared (.foreign className attributes) type coordinates

theorem encodeGeometry_eq_ok {d : Document} : encodeGeometry shared g = .ok d ↔
    ∃ type coordinates, WrittenAs shared g type coordinates ∧ d = geoJsonDocument type coordinates := by
  constructor
  · intro h
    cases g with
    | point p => exact ⟨_, _, .point p, (Except.ok.inj h).symm⟩
    | list items | tuple items =>
      obtain ⟨p, hpair, rfl⟩ := encodeRawPair_eq_ok.mp h
      exact ⟨_, _, .row rfl hpair, rfl⟩
    | box b => exact ⟨_, _, .box b, (Except.ok.inj h).symm⟩
    | polygon q =>
      rw [encodeGeometry] at h
      split at h
      · next ring hring => exact ⟨_, _, .polygon hring, (Except.ok.inj h).symm⟩
      · cases h
    | foreign className attributes =>
      rw [encodeGeometry] at h
      split at h
      · next type coordinates hdescribes =>
        exact ⟨_, _, .custom (typeAndCoordinates?_eq_some.mp hdescribes), (Except.ok.inj h).symm⟩
      · cases h
    | _ => cases h
  · rintro ⟨type, coordinates, hwritten, rfl⟩
    cases hwritten with
    | point | box => rfl
    | row hitems hpair =>
      rcases Value.items?_eq_some.mp hitems with rfl | rfl
      · exact encodeRawPair_eq_ok.mpr ⟨_, hpair, rfl⟩
      · exact encodeRawPair_eq_ok.mpr ⟨_, hpair, rfl⟩
    | polygon hring => rw [encodeGeometry, hring]
    | custom hdescribes => rw [encodeGeometry, typeAndCoordinates?_eq_some.mpr hdescribes]

theorem encodeGeoJson_wrapped_eq_ok {r : Option Document} :
    encodeGeoJson shared (.geoJson g) = .ok r ↔
      ∃ type coordinates, WrittenAs shared g type coordinates ∧
        r = some (geoJsonDocument type coordinates) := by
  rw [encodeGeoJson, map_eq_ok]
  simp only [encodeGeometry_eq_ok]
  constructor
  · rintro ⟨d, ⟨type, coordinates, hwritten, rfl⟩, rfl⟩
    exact ⟨type, coordinates, hwritten, rfl⟩
  · rintro ⟨type, coordinates, hwritten, rfl⟩
    exact ⟨_, ⟨type, coordinates, hwritten, rfl⟩, rfl⟩

/-! ### Agreement -/

/-- What is written has the type of its document. -/
theorem WrittenAs.hasGeoJsonType (h : WrittenAs shared g type coordinates) : HasGeoJsonType g type := by
  cases h with
  | point p => exact .point p
  | row hitems _ => exact .row hitems
  | box b => exact .box b
  | polygon _ => exact .polygon _
  | custom hdescribes => exact .custom hdescribes

/-- What has a type is written, but for a row that is no pair of numbers. -/
theorem HasGeoJsonType.written_iff (h : HasGeoJsonType g type)
    (hbounded : ∀ q, g = .polygon q → q.Bounded) :
    (∃ type' coordinates, WrittenAs shared g type' coordinates) ↔
      ∀ items, g.items? = some items → ∃ p, NumberPair items p := by
  -- of all forms only a row is written on a condition
  constructor
  · rintro ⟨type', coordinates, hwritten⟩ items hitems
    cases hwritten with
    | row hitems' hpair =>
      obtain rfl := Option.some.inj (hitems'.symm.trans hitems)
      exact ⟨_, hpair⟩
    | point | box | polygon | custom => cases hitems
  · intro hrows
    cases h with
    | point p => exact ⟨_, _, .point p⟩
    | row hitems =>
      obtain ⟨p, hpair⟩ := hrows _ hitems
      exact ⟨_, _, .row hitems hpair⟩
    | box b => exact ⟨_, _, .box b⟩
    | polygon q =>
      obtain ⟨ring, hring⟩ := Polygon.exists_closed (hbounded q rfl)
      exact ⟨_, _, .polygon hring⟩
    | custom hdescribes => exact ⟨_, _, .custom hdescribes⟩

/-- What has no type is not written, for the same fault. -/
theorem encodeGeometry_untyped {e : Fault} (h : g.geoJsonType = .error e) :
    e.IsUnusableArgument ∧ encodeGeometry shared g = .error e := by
  have hnone : g.geoJsonType? = none ∧ e = .unusableArgument (.unknownType g.typeName) := by
    unfold Value.geoJsonType at h
    split at h
    · cases h
    · next hnone => exact ⟨hnone, (Except.error.inj h).symm⟩
  obtain ⟨hnone, rfl⟩ := hnone
  refine ⟨trivial, ?_⟩
  cases g with
  | point | list | tuple | box | polygon => cases hnone
  | foreign className attributes =>
    have hunknown : typeAndCoordinates? attributes = none := Option.map_eq_none_iff.mp hnone
    rw [encodeGeometry, hunknown]
    rfl
  | _ => rfl

/-- A wrapper is written as what it holds. -/
theorem encodeGeoJson_unwrapped (hnull : g ≠ .null) (hbare : ∀ inner, g ≠ .geoJson inner) :
    encodeGeoJson shared (.geoJson g) = encodeGeoJson shared g := by
  cases g with
  | null => exact absurd rfl hnull
  | geoJson inner => exact absurd rfl (hbare inner)
  | _ => rfl

/-- **The type of a wrapper agrees with the writer**, whatever it is around. What is written has the
type of its document. What has a type is written, but for a list or tuple that is no pair of
numbers. What has no type is not written, and fails with the same fault. Wrapping makes nothing
different, but for null and for another wrapper. An object of another class that tells its type and
coordinates is written with these as they are. -/
theorem geoJsonType_agrees (g : Value) (shared : Sharing) :
    (∀ r, encodeGeoJson shared (.geoJson g) = .ok r → ∃ type coordinates,
      r = some (geoJsonDocument type coordinates) ∧ g.geoJsonType = .ok type) ∧
    (∀ type, g.geoJsonType = .ok type → (∀ q, g = .polygon q → q.Bounded) →
      ((∃ d, encodeGeoJson shared (.geoJson g) = .ok (some d)) ↔
        ∀ items, g.items? = some items → ∃ p, NumberPair items p)) ∧
    (∀ e, g.geoJsonType = .error e →
      e.IsUnusableArgument ∧ encodeGeoJson shared (.geoJson g) = .error e) ∧
    (g ≠ .null → (∀ inner, g ≠ .geoJson inner) →
      encodeGeoJson shared (.geoJson g) = encodeGeoJson shared g) ∧
    ∀ className attributes type coordinates, g = .foreign className attributes →
      Describes attributes type coordinates → g.geoJsonType = .ok type ∧
        encodeGeoJson shared (.geoJson g) = .ok (some (geoJsonDocument type coordinates)) ∧
        encodeGeoJson shared g = .ok (some (geoJsonDocument type coordinates)) := by
  refine ⟨fun r hr => ?_, fun type htype hbounded => ?_, fun e he => ?_,
    encodeGeoJson_unwrapped, ?_⟩
  · obtain ⟨type, coordinates, hwritten, rfl⟩ := encodeGeoJson_wrapped_eq_ok.mp hr
    exact ⟨type, coordinates, rfl, geoJsonType_eq_ok.mpr hwritten.hasGeoJsonType⟩
  · have hwritten : (∃ type' coordinates, WrittenAs shared g type' coordinates) ↔
        ∀ items, g.items? = some items → ∃ p, NumberPair items p :=
      (geoJsonType_eq_ok.mp htype).written_iff hbounded
    rw [← hwritten]
    simp [encodeGeoJson_wrapped_eq_ok]
  · obtain ⟨hunusable, hwritten⟩ := encodeGeometry_untyped he
    refine ⟨hunusable, ?_⟩
    rw [encodeGeoJson, hwritten]
    rfl
  · rintro className attributes type coordinates rfl hdescribes
    have hsame : encodeGeoJson shared (.geoJson (.foreign className attributes)) =
        encodeGeoJson shared (.foreign className attributes) := encodeGeoJson_unwrapped nofun nofun
    have hwrapped : encodeGeoJson shared (.geoJson (.foreign className attributes)) =
        .ok (some (geoJsonDocument type coordinates)) :=
      encodeGeoJson_wrapped_eq_ok.mpr ⟨type, coordinates, .custom hdescribes, rfl⟩
    exact ⟨geoJsonType_eq_ok.mpr (.custom hdescribes), hwrapped, hsame ▸ hwrapped⟩

/-- A row of one number has the type of a point and is not written. A line is written with its null
coordinates, bare and wrapped, and in two wrappers it has no type and is not written. -/
theorem geoJsonType_agrees_mixed :
    let row : Value := .list [.int 1]
    let line : Value := .foreign "Line" [("coordinates", .null), ("type", .text "LineString")]
    row.geoJsonType = .ok "Point" ∧ (¬ ∃ d, encodeGeoJson .none (.geoJson row) = .ok (some d)) ∧
      line.geoJsonType = .ok "LineString" ∧
      encodeGeoJson .none (.geoJson line) = .ok (some (geoJsonDocument "LineString" .null)) ∧
      encodeGeoJson .none line = encodeGeoJson .none (.geoJson line) ∧
      ∃ e, (Value.geoJson line).geoJsonType = .error e ∧
        encodeGeoJson .none (.geoJson (.geoJson line)) = .error e := by
  intro row line
  have hrow : row.geoJsonType = .ok "Point" := rfl
  have hdescribes :
      Describes [("coordinates", .null), ("type", .text "LineString")] "LineString" .null :=
    ⟨⟨_, rfl, rfl⟩, rfl⟩
  obtain ⟨-, -, -, hsame, hcustom⟩ := geoJsonType_agrees line .none
  obtain ⟨htype, hwritten, -⟩ := hcustom _ _ _ _ rfl hdescribes
  refine ⟨hrow, fun hsome => ?_, htype, hwritten, (hsame nofun nofun).symm, _, rfl, ?_⟩
  · obtain ⟨p, x, y, hpair, -⟩ :=
      ((geoJsonType_agrees row .none).2.1 _ hrow nofun).mp hsome _ rfl
    cases hpair
  · exact ((geoJsonType_agrees (.geoJson line) .none).2.2.1 _ rfl).2

end ShapeCodec
