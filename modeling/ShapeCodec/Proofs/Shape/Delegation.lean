/-
# Readers that hand a document on

The readers of points, boxes and polygons hand a document of a GeoJSON type on to the reader of
GeoJSON, and take what they need out of the wrapper that they are given. The wrapper can hold any
value, and what it is asked for goes by name: its geometry, or the points of its geometry. That the
part is there, and of the class that is needed, is known to the reader of GeoJSON only.

Here the readers are written down a second time in this way, with values of any class for what they
pass on to each other, null for a point that was not there included. Such a reader can fail as the
others do, and beside that it can go astray, by asking for a part that its value has not (`ByName`).
It never does, and it gives what the readers give that know the classes (`ByName.point_eq`,
`ByName.points_eq`, `ByName.polygon_eq`, `ByName.box_eq`). So what is read as a point is a point,
and so for the other kinds, and nothing but null is read as null (`decode_classes`).

Key definitions: `ByName`, `ByName.delegated`, `ByName.point`, `ByName.points`, `ByName.polygon`,
`ByName.box`, `ReadAs`.
Key theorems: `decodeGeoJson_ofType_point`, `decodeGeoJson_ofType_polygon`, `decodeGeoJson_readAs`,
`decode_classes`.
-/
import ShapeCodec.Proofs.Shape.Admission
import ShapeCodec.Proofs.Shape.Dialect
import ShapeCodec.Value.Path

namespace ShapeCodec

variable {α β : Type} {fields : Document}

/-! ### Going by name -/

/-- The outcome of a step that goes by names. It can fail with a fault, or without one where it goes
astray. -/
abbrev ByName (α : Type) := Except (Option Fault) α

namespace ByName

/-- A step that does not go by names. -/
def sure (r : Except Fault α) : ByName α := r.mapError some

/-- The part of a value at a path. -/
def part (path : List Step) (v : Value) : ByName Value :=
  match v.follow? path with
  | some r => sure r
  | none => .error none

/-- The items of a value that is taken for a row. -/
def items (v : Value) : ByName (List Value) :=
  match v.items? with
  | some items => .ok items
  | none => .error none

/-- The part at a path of what a document is read as in GeoJSON. -/
def delegated (path : List Step) (fields : Document) : ByName Value := do
  let w ← sure (decodeGeoJson (.document fields))
  part path w

/-- Reads a point, or null. -/
def point : Value → ByName Value
  | .document fields =>
    if hasType fields "Point" then delegated [.name "geometry"] fields
    else sure ((Point.ofFields fields).map Value.point)
  | v => sure (ShapeKind.point.decode v)

/-- Reads a row, each element of which must not be null. -/
def points : List Value → ByName (List Value)
  | [] => .ok []
  | .null :: _ => sure (.error (.malformedShape .nullElement))
  | v :: rest => do
    let p ← point v
    let others ← points rest
    return p :: others

/-- Reads a polygon, which is accepted of the row that was read. -/
def polygon : Value → ByName Value
  | .document fields =>
    if hasType fields "Polygon" then delegated [.name "geometry"] fields
    else
      match fieldOrNull fields "points" with
      | .null => sure (.error (.malformedShape (.nullPart "Points")))
      | v =>
        match v.items? with
        | none => sure (.error (.malformedShape .pointsNotAList))
        | some elements => do
          let row ← points elements
          let document := Value.document [("points", .list row)]
          sure ((ShapeKind.polygon.accept document).orMalformed "polygon")
  | v => sure (ShapeKind.polygon.decode v)

/-- A corner that must not be null. -/
def corner (part : String) : Value → ByName Value
  | .null => sure (.error (.malformedShape (.nullPart part)))
  | v => .ok v

/-- A box, which is accepted of two corners. -/
def spanned (first second : Value) : ByName Value :=
  sure (ShapeKind.box.accept (.document [("first", first), ("second", second)])).orRejected

/-- Reads a box. -/
def box : Value → ByName Value
  | .document fields =>
    if hasType fields "Polygon" then do
      let row ← delegated [.name "geometry", .name "points"] fields
      let row ← items row
      match row with
      | first :: _ :: second :: _ => spanned first second
      | _ => sure (.error (.malformedShape .ringTooShort))
    else do
      let first ← point (fieldOrNull fields "first")
      let second ← point (fieldOrNull fields "second")
      let first ← corner "First corner" first
      let second ← corner "Second corner" second
      spanned first second
  | v => sure (ShapeKind.box.decode v)

@[simp] theorem sure_ok (a : α) : sure (.ok a) = .ok a := rfl

@[simp] theorem sure_error (e : Fault) : sure (.error e : Except Fault α) = .error (some e) := rfl

end ByName

/-! ### What is read as GeoJSON -/

/-- A document of type `Point` is read as a wrapped point. -/
theorem decodeGeoJson_ofType_point (htype : OfType fields "Point") :
    decodeGeoJson (.document fields) = (Point.ofGeoJson fields).map fun p => .geoJson (.point p) := by
  have hread : Geometry.ofFields fields = (Point.ofGeoJson fields).map Geometry.point := by
    rw [Geometry.ofFields, htype]
    rfl
  rw [decodeGeoJson, Geometry.decode, hread]
  cases Point.ofGeoJson fields <;> rfl

/-- A document of type `Polygon` is read as a wrapped polygon. -/
theorem decodeGeoJson_ofType_polygon (htype : OfType fields "Polygon") :
    decodeGeoJson (.document fields) =
      (Polygon.ofGeoJson fields).map fun q => .geoJson (.polygon q) := by
  have hread : Geometry.ofFields fields = (Polygon.ofGeoJson fields).map Geometry.polygon := by
    rw [Geometry.ofFields, htype]
    rfl
  rw [decodeGeoJson, Geometry.decode, hread]
  cases Polygon.ofGeoJson fields <;> rfl

/-- A document and what it is read as: the wrapper of a geometry of the class that the type of the
document names. The wrapper has this type itself, and it has a plain form. -/
structure ReadAs (fields : Document) (w : Value) : Prop where
  geometry : (OfType fields "Point" ∧ ∃ p, w = .geoJson (.point p)) ∨
    (OfType fields "Polygon" ∧ ∃ q : Polygon, q.Bounded ∧ w = .geoJson (.polygon q))
  type : ∃ type, OfType fields type ∧ w.attribute? "type" = some (.ok (.text type))
  plain : ∃ form, w.plain = .ok form

theorem decodeGeoJson_readAs {w : Value} (h : decodeGeoJson (.document fields) = .ok w) :
    ReadAs fields w := by
  obtain ⟨g, rfl, hg⟩ := decodeGeoJson_document.mp h
  rcases Geometry.decode_eq_ok.mp hg with ⟨htype, p, -, rfl⟩ | ⟨htype, q, hq, rfl⟩
  · exact ⟨Or.inl ⟨htype, p, rfl⟩, ⟨_, htype, rfl⟩, _, rfl⟩
  · exact ⟨Or.inr ⟨htype, q, (Polygon.ofGeoJson_eq_ok.mp hq).1, rfl⟩, ⟨_, htype, rfl⟩, _, rfl⟩

/-! ### Nothing goes astray -/

namespace ByName

theorem delegated_point (htype : hasType fields "Point" = true) :
    delegated [.name "geometry"] fields = sure ((Point.ofGeoJson fields).map Value.point) := by
  rw [delegated, decodeGeoJson_ofType_point ((hasType_iff begins_point).mp htype)]
  cases Point.ofGeoJson fields <;> rfl

theorem delegated_polygon (htype : hasType fields "Polygon" = true) :
    delegated [.name "geometry"] fields = sure ((Polygon.ofGeoJson fields).map Value.polygon) := by
  rw [delegated, decodeGeoJson_ofType_polygon ((hasType_iff begins_polygon).mp htype)]
  cases Polygon.ofGeoJson fields <;> rfl

theorem delegated_points (htype : hasType fields "Polygon" = true) :
    delegated [.name "geometry", .name "points"] fields =
      sure ((Polygon.ofGeoJson fields).map fun q => .tuple (q.points.map Value.point)) := by
  rw [delegated, decodeGeoJson_ofType_polygon ((hasType_iff begins_polygon).mp htype)]
  cases Polygon.ofGeoJson fields <;> rfl

/-- **A point is read by name as it is read.** -/
theorem point_eq (v : Value) : point v = sure (ShapeKind.point.decode v) := by
  cases v with
  | document fields =>
    rw [point, ShapeKind.decode, Point.decode_document, Point.ofDocument]
    split
    · next htype =>
      rw [delegated_point htype]
      cases Point.ofGeoJson fields <;> rfl
    · cases Point.ofFields fields <;> rfl
  | _ => rfl

theorem point_of_ne {v : Value} (hv : v ≠ .null) :
    point v = sure ((Point.ofValue v).map Value.point) := by
  have hdecode : Point.decode v = (Point.ofValue v).map some := by
    cases v with
    | null => exact absurd rfl hv
    | _ => rfl
  rw [point_eq, ShapeKind.decode, hdecode]
  cases Point.ofValue v <;> rfl

/-- **A row of points is read by name as it is read**, and so no element of it is null. -/
theorem points_eq (elements : List Value) :
    points elements = sure ((readPoints elements).map fun ps => ps.map Value.point) := by
  induction elements with
  | nil => rfl
  | cons v rest ih =>
    by_cases hv : v = .null
    · subst hv
      rfl
    · have hfirst : points (v :: rest) = do
          let p ← point v
          let others ← points rest
          return p :: others := by
        cases v with
        | null => exact absurd rfl hv
        | _ => rfl
      have helement : Point.ofElement v = Point.ofValue v := by
        cases v with
        | null => exact absurd rfl hv
        | _ => rfl
      rw [hfirst, point_of_ne hv, ih, readPoints, helement]
      cases Point.ofValue v with
      | error e => rfl
      | ok p => cases readPoints rest <;> rfl

/-- What a reader gives of a document is never null. -/
theorem map_some_map (r : Except Fault α) (k : α → Value) :
    (r.map some).map (fun a => (a.map k).getD .null) = r.map k := by
  cases r <;> rfl

/-! Points that were read are accepted as they are. -/

theorem acceptPoints_points (row : List Point) :
    ∀ position, acceptPoints position (row.map Value.point) = some (row, []) := by
  induction row with
  | nil => exact fun _ => rfl
  | cons p rest ih =>
    intro position
    rw [List.map_cons, acceptPoints, ih (position + 1)]
    rfl

theorem accept_row (row : List Point) :
    ShapeKind.polygon.accept (.document [("points", .list (row.map Value.point))]) =
      (Polygon.ofPoints row).map Value.polygon := by
  have helements : Polygon.accept (.document [("points", .list (row.map Value.point))]) =
      (Polygon.acceptElements (row.map Value.point)).within "points" := rfl
  rw [ShapeKind.accept, helements, Polygon.acceptElements, acceptPoints_points]
  cases row <;> rfl

/-- The polygon of a row that is read by name is the polygon of the row that is read. -/
theorem row_eq (elements : List Value) :
    (do
      let row ← points elements
      sure ((ShapeKind.polygon.accept (.document [("points", .list row)])).orMalformed "polygon")) =
    sure (((readPoints elements).bind fun row =>
      (Polygon.ofPoints row).orMalformed "polygon").map Value.polygon) := by
  rw [points_eq]
  cases readPoints elements with
  | error e => rfl
  | ok row =>
    show sure ((ShapeKind.polygon.accept _).orMalformed "polygon") =
      sure (((Polygon.ofPoints row).orMalformed "polygon").map Value.polygon)
    rw [accept_row]
    cases Polygon.ofPoints row <;> rfl

/-- **A polygon is read by name as it is read.** -/
theorem polygon_eq (v : Value) : polygon v = sure (ShapeKind.polygon.decode v) := by
  cases v with
  | document fields =>
    rw [polygon, ShapeKind.decode, Polygon.decode, Polygon.ofDocument]
    split
    · next htype =>
      rw [delegated_polygon htype]
      cases Polygon.ofGeoJson fields <;> rfl
    · have hfield : (fields.lookup "points").getD .null = fieldOrNull fields "points" := rfl
      rw [Polygon.ofPointsField, hfield]
      cases fieldOrNull fields "points" with
      | list elements | tuple elements =>
        exact (row_eq elements).trans (congrArg sure (map_some_map _ _).symm)
      | _ => rfl
  | _ => rfl

/-- **A box is read by name as it is read.** -/
theorem box_eq (v : Value) : box v = sure (ShapeKind.box.decode v) := by
  cases v with
  | document fields =>
    rw [box, ShapeKind.decode, Box.decode, Box.ofDocument]
    split
    · next htype =>
      rw [delegated_points htype]
      cases Polygon.ofGeoJson fields with
      | error e => rfl
      | ok q =>
        obtain ⟨row⟩ := q
        rcases row with _ | ⟨p, _ | ⟨q, _ | ⟨r, rest⟩⟩⟩ <;> rfl
    · have hcorner : ∀ name, ShapeKind.point.decode (fieldOrNull fields name) =
          (pointField fields name).map fun p => (p.map Value.point).getD .null := fun _ => rfl
      rw [point_eq, point_eq, hcorner, hcorner]
      -- each corner fails, is null or is a point
      rcases pointField fields "first" with e | _ | p <;>
        rcases pointField fields "second" with f | _ | q <;> rfl
  | _ => rfl

/-- A reader that goes by names gives what another reader gives, and so it does not go astray. -/
structure Follows (r : ByName α) (s : Except Fault α) : Prop where
  agrees : r = sure s
  straight : r ≠ .error none

theorem Follows.of_eq {r : ByName α} {s : Except Fault α} (h : r = sure s) : Follows r s := by
  refine ⟨h, ?_⟩
  rw [h]
  cases s <;> simp

end ByName

/-! ### Classes -/

open ByName (Follows)

/-- **What is read is of the class that it is read as.** A value is read as GeoJSON if it is null,
and then as null, or if it is a document, and then as the wrapper of a point or of a polygon with
points, as the type of the document says. The readers that hand a document on and go by names give
what the readers give, for every value and every row, and never go astray. What is read as a shape
of a kind is an admitted shape of this kind, but for null, which is read of null alone. -/
theorem decode_classes (v : Value) :
    (∀ w, decodeGeoJson v = .ok w →
      (v = .null ∧ w = .null) ∨ ∃ fields, v = .document fields ∧ ReadAs fields w) ∧
    Follows (ByName.point v) (ShapeKind.point.decode v) ∧
    Follows (ByName.polygon v) (ShapeKind.polygon.decode v) ∧
    Follows (ByName.box v) (ShapeKind.box.decode v) ∧
    (∀ elements, Follows (ByName.points elements)
      ((readPoints elements).map fun row => row.map Value.point)) ∧
    ∀ (kind : ShapeKind) (s : Value), kind.decode v = .ok s →
      (s = .null ↔ v = .null) ∧ (s ≠ .null → kind.Admits s) := by
  refine ⟨fun w hw => ?_, .of_eq (ByName.point_eq v), .of_eq (ByName.polygon_eq v),
    .of_eq (ByName.box_eq v), fun elements => .of_eq (ByName.points_eq elements),
    fun kind s hs => ⟨ShapeKind.decode_null_iff hs, ShapeKind.admits_of_decode hs⟩⟩
  cases v with
  | null => exact Or.inl ⟨rfl, (Except.ok.inj hw).symm⟩
  | document fields => exact Or.inr ⟨fields, rfl, decodeGeoJson_readAs hw⟩
  | _ => cases hw

/-- A ring of three elements, the second of them a document, which is read as a polygon and as a
box. -/
theorem decode_classes_ring :
    let p : Point := ⟨1.0, 2.0⟩
    let q : Point := ⟨0.0 / 0.0, -0.0⟩
    let r : Point := ⟨3.0, 4.0⟩
    let fields := geoJsonDocument "Polygon" (.list [.tuple [p.pair, .document q.encode, r.pair]])
    let w : Value := .geoJson (.polygon ⟨[p, q, r]⟩)
    decodeGeoJson (.document fields) = .ok w ∧ ReadAs fields w ∧
      ShapeKind.box.decode (.document fields) = .ok (.box ⟨p, r⟩) ∧
      ShapeKind.box.Admits (.box ⟨p, r⟩) ∧
      ByName.box (.document fields) = .ok (.box ⟨p, r⟩) := by
  intro p q r fields w
  have hread : decodeGeoJson (.document fields) = .ok w := rfl
  have hbox : ShapeKind.box.decode (.document fields) = .ok (.box ⟨p, r⟩) := rfl
  obtain ⟨hgeoJson, -, -, hfollows, -, hclasses⟩ := decode_classes (.document fields)
  refine ⟨hread, ?_, hbox, (hclasses .box _ hbox).2 nofun, ?_⟩
  · rcases hgeoJson w hread with ⟨hnull, -⟩ | ⟨_, hdocument, hw⟩
    · cases hnull
    · obtain rfl := Value.document.inj hdocument
      exact hw
  · rw [hfollows.agrees, hbox, ByName.sure_ok]

end ShapeCodec
