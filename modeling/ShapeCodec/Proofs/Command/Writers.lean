/-
# What is stored and what is searched for

A shape is stored as a legacy document or as GeoJSON, and it is searched for with the arguments of a
command. The three are written apart and differ in form: the legacy document holds documents of `x`
and `y`, the others hold pairs; a polygon is led back to its first point in GeoJSON only; a box has
two corners in the legacy document and in a command, and five points in GeoJSON.

They say the same of a shape. The numbers are the very same in all three and stand in the same
order, nothing is left out, and a radius is in radians wherever it is written. So a command finds
what was stored in either form (`writers_agree`).

Key definitions: `SearchedWith`, `WalkedAlong`, `SamePlace`, `PolygonWritten`, `BoxWritten`,
`CenteredWritten`.
Key theorems: `Polygon.written`, `Box.written`, `CenteredShape.written`, `writers_agree`.
-/
import ShapeCodec.Proofs.GeoJson.NormalForm
import ShapeCodec.Command

namespace ShapeCodec

/-! ### Forms -/

/-- A shape is written with these arguments in a command of any operator, strictly or not, and no
notice is given. -/
def SearchedWith (shape : Value) (arguments : List Value) : Prop :=
  ∀ strict name, GeoCommand.encode strict ⟨name, shape⟩ = .ok ([(name, .list arguments)], [])

/-- A shape is written as a GeoJSON polygon of this single ring, bare or in a wrapper, where its
ends share some coordinates. -/
def WalkedAlong (shared : Sharing) (shape : Value) (ring : List Value) : Prop :=
  ∀ w, Presents shape w →
    encodeGeoJson shared w = .ok (some (geoJsonDocument "Polygon" (.list [.list ring])))

/-- The two forms of a point: a document of `x` and `y`, and the pair of the very same numbers. -/
inductive SamePlace : Value → Value → Prop
  | mk (x y : Float) :
      SamePlace (.document [("x", .float x), ("y", .float y)]) (.list [.float x, .float y])

theorem SearchedWith.of_arguments {shape : Value} {arguments : List Value}
    (h : shape.arguments? = some arguments) : SearchedWith shape arguments := by
  intro strict name
  unfold GeoCommand.encode
  rw [h]

theorem Point.samePlace (p : Point) : SamePlace (.document p.encode) p.pair := .mk p.x p.y

/-- The two forms of a row of points agree place by place. -/
theorem samePlace_row (points : List Point) :
    List.Forall₂ SamePlace (points.map fun p => .document p.encode) (points.map Point.pair) := by
  rw [List.forall₂_map_left_iff, List.forall₂_map_right_iff, List.forall₂_same]
  exact fun p _ => p.samePlace

/-! ### Polygons -/

/-- What is written of a polygon: the arguments of a command, the ring of its GeoJSON and the
elements of its legacy document. Whether its ring is led back depends on what its ends share. -/
structure PolygonWritten (shared : Sharing) (q : Polygon) (arguments ring elements : List Value) :
    Prop where
  command : SearchedWith (.polygon q) arguments
  geoJson : WalkedAlong shared (.polygon q) ring
  legacy : q.encode.lookup "points" = some (.list elements)
  /-- The ring is the arguments, and the first of them once more where the walk is open. -/
  led_back : (q.Closed shared ∧ ring = arguments) ∨
    (¬ q.Closed shared ∧ ∃ first, arguments.head? = some first ∧ ring = arguments ++ [first])
  places : List.Forall₂ SamePlace elements arguments
  read : readPoints arguments = .ok q.points

theorem Polygon.written (shared : Sharing) {q : Polygon} (hq : q.Bounded) :
    ∃ arguments ring elements, PolygonWritten shared q arguments ring elements := by
  obtain ⟨first, hfirst⟩ := Polygon.bounded_iff_head.mp hq
  obtain ⟨ring, hring⟩ : ∃ ring, q.closed shared = some ring := Polygon.exists_closed hq
  refine ⟨q.points.map Point.pair, ring.map Point.pair, _, ⟨.of_arguments rfl,
    fun w hw => encodeGeoJson_polygon hw hring, rfl, ?_, samePlace_row q.points,
    readPoints_pair q.points⟩⟩
  rcases Polygon.closed_cases hfirst hring with ⟨hclosed, rfl⟩ | ⟨hopen, rfl⟩
  · exact Or.inl ⟨hclosed, rfl⟩
  · refine Or.inr ⟨hopen, first.pair, ?_, ?_⟩
    · rw [List.head?_map, hfirst, Option.map_some]
    · rw [List.map_append, List.map_singleton]

/-! ### Boxes -/

/-- What is written of a box: the arguments of a command, the ring of its GeoJSON and the corners of
its legacy document. -/
structure BoxWritten (b : Box) (arguments ring : List Value) (first second : Value) : Prop where
  command : SearchedWith (.box b) arguments
  geoJson : ∀ shared, WalkedAlong shared (.box b) ring
  legacy : b.encode.lookup "first" = some first ∧ b.encode.lookup "second" = some second
  corners : ∃ p q, ring[0]? = some p ∧ ring[2]? = some q ∧ arguments = [p, q] ∧
    SamePlace first p ∧ SamePlace second q
  read : readPoints arguments = .ok [b.first, b.second]

theorem Box.written (b : Box) :
    ∃ arguments ring first second, BoxWritten b arguments ring first second :=
  ⟨[b.first, b.second].map Point.pair, b.ring.map Point.pair, .document b.first.encode,
    .document b.second.encode, ⟨.of_arguments rfl, fun _ _ hw => encodeGeoJson_box hw, ⟨rfl, rfl⟩,
      ⟨b.first.pair, b.second.pair, rfl, rfl, rfl, b.first.samePlace, b.second.samePlace⟩,
      readPoints_pair [b.first, b.second]⟩⟩

/-! ### Circles and spheres -/

/-- What is written of a circle or a sphere in a command and in its legacy document: the center in
either form, and the radius in radians. -/
structure CenteredWritten (shape : Value) (s : CenteredShape) (d : Document)
    (pair center radius : Value) : Prop where
  command : SearchedWith shape [pair, radius]
  legacy : d.lookup "center" = some center ∧ d.lookup "radius" = some radius
  place : SamePlace center pair
  radians : radius = .float (s.radius.value / s.radius.metric.multiplier)

theorem CenteredShape.written {shape : Value} {s : CenteredShape}
    (h : shape.arguments? = some s.arguments) :
    CenteredWritten shape s s.encode s.center.pair (.document s.center.encode)
      (.float s.radius.normalized) :=
  ⟨.of_arguments h, ⟨rfl, rfl⟩, s.center.samePlace, rfl⟩

/-! ### All shapes -/

/-- **The writers say the same of every shape.** A polygon with points is written in a command with
the pairs of its points, which are those of its legacy document place by place and are read back as
its points; its ring in GeoJSON is the same pairs, and the first of them once more if the walk is
open, for which it can count what its ends share. A box is written in a command with its two
corners, which are the first and the third point of its ring. A circle and a sphere are written with
their center and with their radius in radians, as in their documents, in every metric. -/
theorem writers_agree :
    (∀ (shared : Sharing) (q : Polygon), q.Bounded →
      ∃ arguments ring elements, PolygonWritten shared q arguments ring elements) ∧
    (∀ b : Box, ∃ arguments ring first second, BoxWritten b arguments ring first second) ∧
    (∀ c : Circle, ∃ pair center radius,
      CenteredWritten (.circle c) c.toCenteredShape c.encode pair center radius) ∧
    ∀ s : Sphere, ∃ pair center radius,
      CenteredWritten (.sphere s) s.toCenteredShape s.encode pair center radius := by
  refine ⟨fun shared q hq => Polygon.written shared hq, Box.written, fun c => ?_, fun s => ?_⟩
  · exact ⟨_, _, _, CenteredShape.written rfl⟩
  · exact ⟨_, _, _, CenteredShape.written rfl⟩

/-- A polygon with a zero below zero at its start and what is no number at both its ends: its ring
has one pair more than the command, unless the ends hold it as one object. -/
theorem writers_agree_nan :
    let q : Polygon := ⟨[⟨-0.0, 0.0 / 0.0⟩, ⟨2.0, 1.5⟩, ⟨-0.0, 0.0 / 0.0⟩]⟩
    q.Bounded ∧
      (∃ arguments elements first, arguments.head? = some first ∧
        PolygonWritten .none q arguments (arguments ++ [first]) elements) ∧
      ∃ arguments elements, PolygonWritten .all q arguments arguments elements := by
  intro q
  have hq : q.Bounded := List.cons_ne_nil _ _
  have hopen : ¬ q.Closed .none := by
    rw [← endsAt_iff]
    decide +kernel
  have hclosed : q.Closed .all := (endsAt_iff _ _).mp (by decide +kernel)
  refine ⟨hq, ?_, ?_⟩
  · obtain ⟨arguments, ring, elements, h⟩ := writers_agree.1 .none q hq
    rcases h.led_back with ⟨hends, -⟩ | ⟨-, first, hfirst, rfl⟩
    · exact absurd hends hopen
    · exact ⟨arguments, elements, first, hfirst, h⟩
  · obtain ⟨arguments, ring, elements, h⟩ := writers_agree.1 .all q hq
    rcases h.led_back with ⟨-, rfl⟩ | ⟨hends, -⟩
    · exact ⟨ring, elements, h⟩
    · exact absurd hclosed hends

end ShapeCodec
