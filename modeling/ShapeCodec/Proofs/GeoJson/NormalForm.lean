/-
# The normal form of a GeoJSON document

A GeoJSON document that is read and written again is brought into its normal form: two fields,
a pair for a point, a single ring of pairs for a polygon, and that ring ends where it begins. The
spelling of the elements, further rings and further fields are lost on the way, and the points
stay what they were. A second time nothing changes, since a ring that was closed is not closed
again.

For the last step the first point has to be equal to itself. Then it does not matter which
coordinates the ends of a walk share (`Polygon.closed_eq_apart`), and a ring that was closed once
ends in numbers that compare equal. A ring that begins with what is no number can be taken for open
again, and grow by one point each time.

Key definitions: `normalForm`, `Geometry.first?`.
Key theorems: `Polygon.closed_eq_apart`, `Polygon.closed_ends`, `normalForm_of_polygon`,
`normalForm_fixed`.
-/
import Mathlib
import ShapeCodec.Proofs.GeoJson.RoundTrip
import ShapeCodec.Proofs.GeoJson.TypeText
import ShapeCodec.Proofs.Shape.Denotation
import ShapeCodec.Value.Equality

namespace ShapeCodec

/-- The GeoJSON document as which a value is written after it was read from one. -/
def normalForm (shared : Sharing) (v : Value) : Except Fault (Option Document) := do
  let w ← decodeGeoJson v
  encodeGeoJson shared w

/-- The first point of a geometry. -/
def Geometry.first? : Geometry → Option Point
  | point p => some p
  | polygon q => q.points.head?

theorem Geometry.toValue_inj {g h : Geometry} (heq : g.toValue = h.toValue) : g = h := by
  cases g <;> cases h <;> simp_all [Geometry.toValue]

theorem decodeGeoJson_document {fields : Document} {w : Value} :
    decodeGeoJson (.document fields) = .ok w ↔
      ∃ g : Geometry, w = .geoJson g.toValue ∧ Geometry.decode (.document fields) = .ok (some g) := by
  have hsome : ∀ r, Geometry.decode (.document fields) = .ok r → ∃ g, r = some g := by
    intro r hr
    obtain ⟨g, -, hg⟩ := map_eq_ok.mp hr
    exact ⟨g, hg.symm⟩
  unfold decodeGeoJson
  rw [map_eq_ok]
  constructor
  · rintro ⟨r, hr, rfl⟩
    obtain ⟨g, rfl⟩ := hsome r hr
    exact ⟨g, rfl, hr⟩
  · rintro ⟨g, rfl, hg⟩
    exact ⟨some g, hg, rfl⟩

variable {shared : Sharing}

theorem normalForm_of_read {v w : Value} (h : decodeGeoJson v = .ok w) :
    normalForm shared v = encodeGeoJson shared w := by
  rw [normalForm, h]
  rfl

/-! ### Points -/

theorem normalForm_of_point {v : Value} {p : Point} (h : decodeGeoJson v = .ok (.geoJson (.point p))) :
    normalForm shared v = .ok (some (geoJsonDocument "Point" p.pair)) := by
  rw [normalForm_of_read h]
  exact encodeGeoJson_point .wrapped

/-! ### Rings -/

variable {q : Polygon} {ring : List Point} {first : Point}

theorem Point.pair_equal (p r : Point) : p.pair.equal r.pair = (p == r) := by
  simp [Point.pair, Value.equal, Value.equalItems, Value.equalScalars, BEq.beq]

/-- The closed walk of a polygon is its own points, with the first of them once more at the end
where they are open. -/
theorem Polygon.closed_cases (hfirst : q.points.head? = some first)
    (hring : q.closed shared = some ring) :
    (q.Closed shared ∧ ring = q.points) ∨ (¬ q.Closed shared ∧ ring = q.points ++ [first]) := by
  have hbounded : q.Bounded := Polygon.bounded_iff_head.mpr ⟨first, hfirst⟩
  by_cases hclosed : q.Closed shared
  · have hself := Polygon.closed_eq_self hbounded hclosed
    exact Or.inl ⟨hclosed, Option.some.inj (hring.symm.trans hself)⟩
  · have happend := Polygon.closed_eq_append hfirst hclosed
    exact Or.inr ⟨hclosed, Option.some.inj (hring.symm.trans happend)⟩

/-- A walk from a point that is equal to itself is closed or open whatever its ends share. -/
theorem endsAt_eq_apart (hself : first == first) (rest : List Point) :
    endsAt shared first rest = endsAt .none first rest := by
  unfold endsAt
  split
  · rfl
  · rw [Point.meets_eq_beq hself, Point.meets_eq_beq hself]

theorem Polygon.closed_eq_apart (hfirst : q.points.head? = some first) (hself : first == first) :
    q.closed shared = q.closed .none := by
  obtain ⟨_ | ⟨p, rest⟩⟩ := q
  · rfl
  · obtain rfl : p = first := by simpa using hfirst
    rw [Polygon.closed, Polygon.closed]
    simp only [endsAt_eq_apart hself]

theorem Polygon.closed_iff_apart (hfirst : q.points.head? = some first) (hself : first == first) :
    q.Closed shared ↔ q.Closed .none := by
  obtain ⟨_ | ⟨p, rest⟩⟩ := q
  · cases hfirst
  · obtain rfl : p = first := by simpa using hfirst
    rw [← endsAt_iff, ← endsAt_iff, endsAt_eq_apart hself]

/-- **The closed walk of a polygon ends where it begins**, if its first point is equal to
itself. -/
theorem Polygon.closed_ends (hfirst : q.points.head? = some first) (hself : first == first)
    (hring : q.closed shared = some ring) :
    ring.head? = some first ∧ ∃ last, ring.getLast? = some last ∧ first == last := by
  rcases Polygon.closed_cases hfirst hring with ⟨hclosed, rfl⟩ | ⟨-, rfl⟩
  · refine ⟨hfirst, ?_⟩
    rcases hclosed with hlength | ⟨p, last, hp, hlast, heq⟩
    · obtain ⟨p, hpoints⟩ := List.length_eq_one_iff.mp hlength
      have hp : p = first := by
        rw [hpoints] at hfirst
        exact Option.some.inj hfirst
      exact ⟨first, by rw [hpoints, hp, List.getLast?_singleton], hself⟩
    · obtain rfl : p = first := Option.some.inj (hp.symm.trans hfirst)
      exact ⟨last, hlast, (Point.meets_eq_beq hself).symm.trans heq⟩
  · have hhead : (q.points ++ [first]).head? = some first := by
      rw [List.head?_append, hfirst, Option.some_or]
    exact ⟨hhead, first, List.getLast?_concat, hself⟩

/-- A walk that was closed is not closed again. -/
theorem Polygon.closed_closed (hfirst : q.points.head? = some first) (hself : first == first)
    (hring : q.closed shared = some ring) (other : Sharing) :
    (⟨ring⟩ : Polygon).closed other = some ring := by
  obtain ⟨hhead, last, hlast, heq⟩ := Polygon.closed_ends hfirst hself hring
  have hbounded : (⟨ring⟩ : Polygon).Bounded := Polygon.bounded_iff_head.mpr ⟨first, hhead⟩
  have hclosed : (⟨ring⟩ : Polygon).Closed other :=
    Or.inr ⟨first, last, hhead, hlast, Point.meets_of_beq heq⟩
  exact Polygon.closed_eq_self hbounded hclosed

theorem normalForm_of_polygon {v : Value} (h : decodeGeoJson v = .ok (.geoJson (.polygon q)))
    (hring : q.closed shared = some ring) :
    normalForm shared v = .ok (some (geoJsonDocument "Polygon" (ringCoordinates ring))) := by
  rw [normalForm_of_read h]
  exact encodeGeoJson_polygon .wrapped hring

/-! ### All documents -/

/-- What a document of a point is brought into: the pair of the point at its coordinates. -/
def PointNormal (fields : Document) (g : Geometry) (coordinates : Value) : Prop :=
  ∃ p, g = .point p ∧ p.StandsAt (GeoJsonPairOf fields) ∧ coordinates = p.pair

/-- What a document of a polygon is brought into: a single ring of pairs that ends where it
begins. The points of the first ring of the document stand in it in order, and where they were
open the first of them once more at the end. -/
def PolygonNormal (fields : Document) (g : Geometry) (coordinates : Value) : Prop :=
  ∃ q elements ring pairs first last, g = .polygon q ∧
    FirstRing fields elements ∧ RingStandsFor elements q.points ∧
    coordinates = .list [.list pairs] ∧ pairs = ring.map Point.pair ∧
    pairs.head? = some first ∧ pairs.getLast? = some last ∧ first.equal last = true ∧
    ((q.Closed .none ∧ ring = q.points) ∨
      (¬ q.Closed .none ∧ ∃ p, q.points.head? = some p ∧ ring = q.points ++ [p]))

theorem polygonNormal_of_closed {fields : Document} (hread : Polygon.ofGeoJson fields = .ok q)
    (hfirst : q.points.head? = some first) (hself : first == first)
    (hring : q.closed .none = some ring) :
    PolygonNormal fields (.polygon q) (ringCoordinates ring) := by
  obtain ⟨-, elements, helements, hpoints⟩ := Polygon.ofGeoJson_eq_ok.mp hread
  obtain ⟨hhead, last, hlast, heq⟩ := Polygon.closed_ends hfirst hself hring
  refine ⟨q, elements, ring, ring.map Point.pair, first.pair, last.pair, rfl, helements, hpoints,
    rfl, rfl, ?_, ?_, ?_, ?_⟩
  · rw [List.head?_map, hhead, Option.map_some]
  · rw [List.getLast?_map, hlast, Option.map_some]
  · rw [Point.pair_equal, heq]
  · rcases Polygon.closed_cases hfirst hring with ⟨hclosed, hself⟩ | ⟨hopen, happend⟩
    · exact Or.inl ⟨hclosed, hself⟩
    · exact Or.inr ⟨hopen, first, hfirst, happend⟩

/-- **The normal form of a GeoJSON document is reached at once.** A document that is read, and
whose first point is equal to itself, is written as its type and its coordinates and nothing
else, whatever the ends of a ring share; what is written is read again, and written the very
same. -/
theorem normalForm_fixed {fields : Document} {w : Value}
    (hread : decodeGeoJson (.document fields) = .ok w) : ∃ g : Geometry, w = .geoJson g.toValue ∧
      ((∀ first, g.first? = some first → first == first) →
        ∃ type coordinates, OfType fields type ∧
          ((type = "Point" ∧ PointNormal fields g coordinates) ∨
            (type = "Polygon" ∧ PolygonNormal fields g coordinates)) ∧
          let d : Document := [("type", .text type), ("coordinates", coordinates)]
          ∀ shared, normalForm shared (.document fields) = .ok (some d) ∧
            normalForm shared (.document d) = .ok (some d)) := by
  obtain ⟨g, rfl, hg⟩ := decodeGeoJson_document.mp hread
  refine ⟨g, rfl, fun hself => ?_⟩
  rcases Geometry.decode_eq_ok.mp hg with ⟨htype, p, hp, rfl⟩ | ⟨htype, q, hq, rfl⟩
  · refine ⟨"Point", p.pair, htype, Or.inl ⟨rfl, p, rfl, Point.ofGeoJson_eq_ok.mp hp, rfl⟩,
      fun shared => ⟨?_, ?_⟩⟩
    · exact normalForm_of_point hread
    · exact normalForm_of_point (decodeGeoJson_point p)
  · obtain ⟨hbounded, -⟩ := Polygon.ofGeoJson_eq_ok.mp hq
    obtain ⟨first, hfirst⟩ : ∃ first, q.points.head? = some first := by
      obtain ⟨first, rest, hpoints⟩ := List.exists_cons_of_ne_nil hbounded
      exact ⟨first, by rw [hpoints, List.head?_cons]⟩
    obtain ⟨ring, hring⟩ : ∃ ring, q.closed .none = some ring := Polygon.exists_closed hbounded
    have hfirst_self : first == first := hself first hfirst
    have hagain := Polygon.closed_closed hfirst hfirst_self hring
    have hne : ring ≠ [] := by
      intro hnil
      cases hnil ▸ hagain .none
    refine ⟨"Polygon", ringCoordinates ring, htype, Or.inr ⟨rfl, ?_⟩, fun shared => ⟨?_, ?_⟩⟩
    · exact polygonNormal_of_closed hq hfirst hfirst_self hring
    · have hring' : q.closed shared = some ring :=
        (Polygon.closed_eq_apart hfirst hfirst_self).trans hring
      exact normalForm_of_polygon hread hring'
    · exact normalForm_of_polygon (decodeGeoJson_polygon hne) (hagain shared)

/-- An open ring in every spelling of its elements, beside a second ring and a field that is not
asked for: it is written as four pairs. -/
theorem normalForm_fixed_mixed :
    let ring : List Value := [.list [.int 0, .float 1.5], .tuple [.int 2, .int 3],
      .document [("x", .int 4), ("y", .float 0.5)]]
    let fields : Document := [("extra", .null), ("type", .text "Polygon"),
      ("coordinates", .list [.list ring, .text "hole"])]
    let p : Point := ⟨Float.ofScientific 0 false 0, 1.5⟩
    let q : Polygon := ⟨[p, ⟨Float.ofScientific 2 false 0, Float.ofScientific 3 false 0⟩,
      ⟨Float.ofScientific 4 false 0, 0.5⟩]⟩
    decodeGeoJson (.document fields) = .ok (.geoJson (.polygon q)) ∧ (p == p) = true ∧
      ∃ d, ∀ shared, normalForm shared (.document fields) = .ok (some d) ∧
        normalForm shared (.document d) = .ok (some d) := by
  intro ring fields p q
  have hwhole : ∀ n : ℕ, n < 5 → (Value.int n).Denotes (Float.ofScientific n false 0) := by
    intro n hn
    have hbound : n < overflowBound := lt_trans hn (show 5 < overflowBound by decide +kernel)
    exact Or.inr ⟨n, rfl, floatOfInt?_ofNat hbound⟩
  have hring : RingStandsFor ring q.points := by
    refine .cons ⟨_, _, Or.inl rfl, hwhole 0 (by decide), Or.inl rfl⟩ ?_
    refine .cons ⟨_, _, Or.inl rfl, hwhole 2 (by decide), hwhole 3 (by decide)⟩ ?_
    refine .cons ⟨_, _, Or.inr ⟨_, rfl, rfl, rfl, rfl⟩, hwhole 4 (by decide), Or.inl rfl⟩ .nil
  have hpolygon : Polygon.ofGeoJson fields = .ok q :=
    Polygon.ofGeoJson_eq_ok.mpr ⟨List.cons_ne_nil _ _, ring, ⟨_, _, rfl, rfl⟩, hring⟩
  have hread : decodeGeoJson (.document fields) = .ok (.geoJson (.polygon q)) :=
    decodeGeoJson_document.mpr
      ⟨.polygon q, rfl, Geometry.decode_eq_ok.mpr (Or.inr ⟨rfl, q, hpolygon, rfl⟩)⟩
  have hp : (p == p) = true := by decide +kernel
  obtain ⟨g, hg, hfixed⟩ := normalForm_fixed hread
  have hself : ∀ first, g.first? = some first → first == first := by
    intro first hfirst
    obtain rfl : Geometry.polygon q = g := Geometry.toValue_inj (Value.geoJson.inj hg)
    have hpoint : p = first := Option.some.inj hfirst
    rwa [← hpoint]
  obtain ⟨type, coordinates, -, -, hnormal⟩ := hfixed hself
  exact ⟨hread, hp, _, hnormal⟩

end ShapeCodec
