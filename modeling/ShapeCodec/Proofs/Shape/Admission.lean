/-
# What is admitted

Acceptance and the readers admit the same shapes of a kind: any point and any box, circles and
spheres with a proper radius, polygons with a boundary. They check this at different places, one
in the fields of a value and one after a document has been read, and in either of two dialects.

Every admitted shape has a plain form, which is accepted as that shape again, and a legacy
document, which is read as that shape but for the rounding of a radius. Points, boxes and
polygons have a GeoJSON document as well, which is read as the shape with its ring closed.

Key definitions: `ShapeKind.Admits`, `Value.Valid`, `Value.restored`, `Value.InRadians`,
`ThroughGeoJson`.
Key theorems: `ShapeKind.admits_of_valid`, `ShapeKind.admits_of_decode`,
`ShapeKind.decode_null_iff`, `ShapeKind.Admits.accept_plain`, `ShapeKind.Admits.decode_encode`,
`ShapeKind.Admits.decode_geoJson`.
-/
import ShapeCodec.Proofs.GeoJson.RoundTrip
import ShapeCodec.Proofs.Json.Plain
import ShapeCodec.Proofs.Shape.Denotation
import ShapeCodec.Proofs.Shape.Legacy
import ShapeCodec.Proofs.Shape.PlainForm
import ShapeCodec.Shape.Kind

namespace ShapeCodec

open Json (Plain PlainItems)

/-- The shapes of a kind that are admitted. -/
inductive ShapeKind.Admits : ShapeKind → Value → Prop where
  | point (p : Point) : Admits .point (.point p)
  | box (b : Box) : Admits .box (.box b)
  | circle {c : Circle} (h : c.Proper) : Admits .circle (.circle c)
  | sphere {s : Sphere} (h : s.Proper) : Admits .sphere (.sphere s)
  | polygon {q : Polygon} (h : q.Bounded) : Admits .polygon (.polygon q)

/-! ### Admitted by acceptance -/

theorem CenteredShape.acceptFields_proper {fields : Document} {s : CenteredShape}
    (h : CenteredShape.acceptFields fields = .accepted s) : s.Proper :=
  (CenteredShape.proper_iff s).mpr ⟨fields, h⟩

theorem Polygon.acceptElements_bounded {elements : List Value} {q : Polygon}
    (h : Polygon.acceptElements elements = .accepted q) : q.Bounded := by
  unfold Polygon.acceptElements at h
  split at h
  · cases h
  · next points complaints _ =>
    split at h
    · cases h
    · next hne =>
      split at h
      · obtain rfl := Verdict.accepted.inj h
        intro hnil
        exact hne (List.isEmpty_iff.mpr hnil)
      · cases h

/-- A value that is what acceptance keeps unchecked: if it is a shape, it is one that is admitted,
and if it is a command, it has a name. -/
def Value.Valid : Value → Prop
  | .circle c => c.Proper
  | .sphere s => s.Proper
  | .polygon q => q.Bounded
  | .geoCommand command _ => command ≠ ""
  | _ => True

theorem Value.valid_of_plain {v : Value} (h : Plain v) : v.Valid := by
  cases v with
  | circle | sphere | polygon | geoCommand =>
    unfold Plain at h
    exact h.elim
  | _ => trivial

theorem Circle.accept_proper {v : Value} {c : Circle} (hv : v.Valid)
    (h : Circle.accept v = .accepted c) : c.Proper := by
  unfold Circle.accept at h
  split at h
  · obtain rfl := Verdict.accepted.inj h
    exact hv
  · obtain ⟨s, hs, rfl⟩ := Verdict.map_eq_accepted.mp h
    exact CenteredShape.acceptFields_proper hs
  · cases h

theorem Sphere.accept_proper {v : Value} {s : Sphere} (hv : v.Valid)
    (h : Sphere.accept v = .accepted s) : s.Proper := by
  unfold Sphere.accept at h
  split at h
  · obtain rfl := Verdict.accepted.inj h
    exact hv
  · obtain ⟨s, hs, rfl⟩ := Verdict.map_eq_accepted.mp h
    exact CenteredShape.acceptFields_proper hs
  · cases h

theorem Polygon.accept_bounded {v : Value} {q : Polygon} (hv : v.Valid)
    (h : Polygon.accept v = .accepted q) : q.Bounded := by
  unfold Polygon.accept at h
  split at h
  · obtain rfl := Verdict.accepted.inj h
    exact hv
  · obtain ⟨points, -, hrow⟩ := acceptField_eq_accepted.mp h
    split at hrow
    · exact Polygon.acceptElements_bounded hrow
    · cases hrow
  · cases h

/-- **What is accepted is admitted**, if what is kept unchecked was. -/
theorem ShapeKind.admits_of_valid {kind : ShapeKind} {v s : Value} (hv : v.Valid)
    (h : kind.accept v = .accepted s) : kind.Admits s := by
  cases kind with
  | point =>
    obtain ⟨p, -, rfl⟩ := Verdict.map_eq_accepted.mp h
    exact .point p
  | box =>
    obtain ⟨b, -, rfl⟩ := Verdict.map_eq_accepted.mp h
    exact .box b
  | circle =>
    obtain ⟨c, hc, rfl⟩ := Verdict.map_eq_accepted.mp h
    exact .circle (Circle.accept_proper hv hc)
  | sphere =>
    obtain ⟨s, hs, rfl⟩ := Verdict.map_eq_accepted.mp h
    exact .sphere (Sphere.accept_proper hv hs)
  | polygon =>
    obtain ⟨q, hq, rfl⟩ := Verdict.map_eq_accepted.mp h
    exact .polygon (Polygon.accept_bounded hv hq)

/-- What is accepted from a plain value is admitted. -/
theorem ShapeKind.admits_of_accept {kind : ShapeKind} {v s : Value} (hv : Plain v)
    (h : kind.accept v = .accepted s) : kind.Admits s :=
  ShapeKind.admits_of_valid (Value.valid_of_plain hv) h

/-! ### Admitted by the readers -/

theorem CenteredShape.ofParts_proper {center : Point} {radius : Distance} {s : CenteredShape}
    (h : CenteredShape.ofParts center radius = .accepted s) : s.Proper := by
  obtain ⟨checked, hchecked, rfl⟩ := Verdict.map_eq_accepted.mp h
  obtain ⟨hlt, rfl⟩ := Distance.asRadius_eq_accepted.mp (Verdict.within_eq_accepted.mp hchecked)
  exact hlt

/-- However the parts were read, the check of the radius comes last. -/
theorem CenteredShape.ofDocument_proper {kind : String} {fields : Document} {s : CenteredShape}
    (h : CenteredShape.ofDocument kind fields = .ok s) : s.Proper := by
  obtain ⟨_, -, h⟩ := bind_eq_ok.mp h
  obtain ⟨_, -, h⟩ := bind_eq_ok.mp h
  obtain ⟨_, -, h⟩ := bind_eq_ok.mp h
  obtain ⟨distance, -, h⟩ := bind_eq_ok.mp h
  obtain ⟨center, -, h⟩ := bind_eq_ok.mp h
  exact CenteredShape.ofParts_proper (Verdict.orMalformed_eq_ok.mp h)

theorem CenteredShape.decode_proper {kind : String} {v : Value} {s : CenteredShape}
    (h : CenteredShape.decode kind v = .ok (some s)) : s.Proper := by
  unfold CenteredShape.decode at h
  split at h
  · cases h
  · obtain ⟨t, ht, hs⟩ := map_eq_ok.mp h
    obtain rfl := Option.some.inj hs
    exact CenteredShape.ofDocument_proper ht
  · cases h

theorem Circle.decode_proper {v : Value} {c : Circle} (h : Circle.decode v = .ok (some c)) :
    c.Proper := by
  rw [Circle.decode_eq] at h
  obtain ⟨_, hs, hc⟩ := map_eq_ok.mp h
  obtain ⟨s, rfl, rfl⟩ := Option.map_eq_some_iff.mp hc
  exact CenteredShape.decode_proper hs

theorem Sphere.decode_proper {v : Value} {s : Sphere} (h : Sphere.decode v = .ok (some s)) :
    s.Proper := by
  rw [Sphere.decode_eq] at h
  obtain ⟨_, ht, hs⟩ := map_eq_ok.mp h
  obtain ⟨t, rfl, rfl⟩ := Option.map_eq_some_iff.mp hs
  exact CenteredShape.decode_proper ht

theorem Polygon.decode_bounded {v : Value} {q : Polygon} (h : Polygon.decode v = .ok (some q)) :
    q.Bounded := by
  unfold Polygon.decode at h
  split at h
  · cases h
  · obtain ⟨p, hp, hq⟩ := map_eq_ok.mp h
    obtain rfl := Option.some.inj hq
    unfold Polygon.ofDocument at hp
    split at hp
    · exact (Polygon.ofGeoJson_eq_ok.mp hp).1
    · exact (Polygon.ofPointsField_eq_ok.mp hp).1
  · cases h

/-- The readers give null, or a shape that was read. -/
theorem read_eq_ok {α : Type} {r : Except Fault (Option α)} {f : α → Value} {s : Value}
    (h : (r.map fun a => (a.map f).getD .null) = .ok s) (hs : s ≠ .null) :
    ∃ a, r = .ok (some a) ∧ f a = s := by
  obtain ⟨_ | a, ha, hfa⟩ := map_eq_ok.mp h
  · exact absurd hfa.symm hs
  · exact ⟨a, ha, hfa⟩

/-- **What is read and is not null is admitted**, in either dialect. -/
theorem ShapeKind.admits_of_decode {kind : ShapeKind} {v s : Value} (h : kind.decode v = .ok s)
    (hs : s ≠ .null) : kind.Admits s := by
  cases kind with
  | point =>
    obtain ⟨p, -, rfl⟩ := read_eq_ok h hs
    exact .point p
  | box =>
    obtain ⟨b, -, rfl⟩ := read_eq_ok h hs
    exact .box b
  | circle =>
    obtain ⟨c, hc, rfl⟩ := read_eq_ok h hs
    exact .circle (Circle.decode_proper hc)
  | sphere =>
    obtain ⟨t, ht, rfl⟩ := read_eq_ok h hs
    exact .sphere (Sphere.decode_proper ht)
  | polygon =>
    obtain ⟨q, hq, rfl⟩ := read_eq_ok h hs
    exact .polygon (Polygon.decode_bounded hq)

/-! ### What is read of null -/

/-- What is read as a shape is no null. -/
theorem map_some_ne {α β : Type} {r : Except Fault α} {j : α → β} {k : β → Value}
    (h : (r.map fun a => some (j a)).map (fun b => (b.map k).getD .null) = .ok .null)
    (hk : ∀ b, k b ≠ .null) : False := by
  obtain ⟨b, hb, hnull⟩ := map_eq_ok.mp h
  obtain ⟨a, -, rfl⟩ := map_eq_ok.mp hb
  exact hk (j a) hnull

/-- **Null is read of null alone.** -/
theorem ShapeKind.decode_null_iff {kind : ShapeKind} {v s : Value} (h : kind.decode v = .ok s) :
    s = .null ↔ v = .null := by
  constructor
  · rintro rfl
    by_contra hv
    cases v with
    | null => exact hv rfl
    | document fields => cases kind <;> exact map_some_ne h fun _ => nofun
    | list | tuple =>
      cases kind with
      | point => exact map_some_ne h fun _ => nofun
      | _ => cases h
    | _ => cases kind <;> cases h
  · rintro rfl
    cases kind <;> exact (Except.ok.inj h).symm

theorem decodeGeoJson_null_iff {v s : Value} (h : decodeGeoJson v = .ok s) :
    s = .null ↔ v = .null := by
  obtain ⟨g, hg, rfl⟩ := map_eq_ok.mp h
  cases v with
  | null =>
    obtain rfl := Except.ok.inj hg
    exact iff_of_true rfl rfl
  | document fields =>
    obtain ⟨geometry, -, rfl⟩ := map_eq_ok.mp hg
    exact iff_of_false nofun nofun
  | _ => cases hg

/-! ### Plain forms -/

theorem Point.plain_plain (p : Point) : Plain p.plain := by
  simp [Point.plain, Plain, Json.PlainFields]

theorem Box.plain_plain (b : Box) : Plain b.plain := by
  simp [Box.plain, Plain, Json.PlainFields, Point.plain_plain]

theorem Distance.plain_plain (d : Distance) : Plain d.plain := by
  simp [Distance.plain, Plain, Json.PlainFields]

theorem CenteredShape.plain_plain (s : CenteredShape) : Plain s.plain := by
  simp [CenteredShape.plain, Plain, Json.PlainFields, Point.plain_plain, Distance.plain_plain]

theorem plainItems_map {α : Type} {f : α → Value} (hf : ∀ a, Plain (f a)) (items : List α) :
    PlainItems (items.map f) := by
  rw [Json.plainItems_iff, List.forall_mem_map]
  exact fun a _ => hf a

theorem Polygon.plain_plain (q : Polygon) : Plain q.plain := by
  simp [Polygon.plain, Plain, Json.PlainFields, plainItems_map Point.plain_plain]

/-- **An admitted shape has a plain form, which is accepted as that shape again.** -/
theorem ShapeKind.Admits.accept_plain {kind : ShapeKind} {s : Value} (h : kind.Admits s) :
    ∃ form, s.plain = .ok form ∧ Plain form ∧ kind.accept form = .accepted s := by
  cases h with
  | point p =>
    refine ⟨p.plain, rfl, p.plain_plain, ?_⟩
    rw [ShapeKind.accept, Point.accept_plain, Verdict.map_accepted]
  | box b =>
    refine ⟨b.plain, rfl, b.plain_plain, ?_⟩
    rw [ShapeKind.accept, Box.accept_plain, Verdict.map_accepted]
  | @circle c hc =>
    refine ⟨c.toCenteredShape.plain, rfl, c.plain_plain, ?_⟩
    rw [ShapeKind.accept, CenteredShape.plain, Circle.accept, CenteredShape.acceptFields_plain hc]
    rfl
  | @sphere s hs =>
    refine ⟨s.toCenteredShape.plain, rfl, s.plain_plain, ?_⟩
    rw [ShapeKind.accept, CenteredShape.plain, Sphere.accept, CenteredShape.acceptFields_plain hs]
    rfl
  | @polygon q hq =>
    refine ⟨q.plain, rfl, q.plain_plain, ?_⟩
    rw [ShapeKind.accept, Polygon.accept_plain hq, Verdict.map_accepted]

/-! ### Legacy documents -/

theorem Point.encode_plain (p : Point) : Plain (.document p.encode) := p.plain_plain

theorem Box.encode_plain (b : Box) : Plain (.document b.encode) := b.plain_plain

theorem CenteredShape.encode_plain (s : CenteredShape) : Plain (.document s.encode) := by
  have hcenter := s.center.encode_plain
  unfold Plain at hcenter
  simp [CenteredShape.encode, Plain, Json.PlainFields, hcenter]

theorem Polygon.encode_plain (q : Polygon) : Plain (.document q.encode) := q.plain_plain

/-- A shape after the way through its legacy document: a radius has been rounded twice, unless
it is in radians. -/
def Value.restored : Value → Value
  | .circle c => .circle ⟨c.restored⟩
  | .sphere s => .sphere ⟨s.restored⟩
  | v => v

/-- A shape whose radius is in radians, if it has one. -/
def Value.InRadians : Value → Prop
  | .circle c => c.radius.metric = .neutral
  | .sphere s => s.radius.metric = .neutral
  | _ => True

theorem Distance.restored_neutral {d : Distance} (h : d.metric = .neutral) : d.restored = d := by
  rw [Distance.restored, h]

theorem Value.restored_eq_self {s : Value} (h : s.InRadians) : s.restored = s := by
  unfold Value.restored
  split
  · next c =>
    rw [CenteredShape.restored, Distance.restored_neutral h]
  · next s =>
    rw [CenteredShape.restored, Distance.restored_neutral h]
  · rfl

theorem ShapeKind.Admits.inRadians {kind : ShapeKind} {s : Value} (h : kind.Admits s)
    (hkind : kind ∈ [.point, .box, .polygon]) : s.InRadians := by
  cases h with
  | point | box | polygon => trivial
  | circle | sphere => simp at hkind

/-- **An admitted shape has a legacy document, which is read as that shape** but for the
rounding of a radius. -/
theorem ShapeKind.Admits.decode_encode {kind : ShapeKind} {s : Value} (h : kind.Admits s) :
    ∃ d, kind.encode? s = some d ∧ Plain (.document d) ∧
      kind.decode (.document d) = .ok s.restored := by
  cases h with
  | point p =>
    refine ⟨p.encode, rfl, p.encode_plain, ?_⟩
    rw [ShapeKind.decode, Point.decode_encode]
    rfl
  | box b =>
    refine ⟨b.encode, rfl, b.encode_plain, ?_⟩
    rw [ShapeKind.decode, Box.decode_encode]
    rfl
  | @circle c hc =>
    refine ⟨c.encode, rfl, c.toCenteredShape.encode_plain, ?_⟩
    rw [ShapeKind.decode, Circle.decode_encode hc]
    rfl
  | @sphere s hs =>
    refine ⟨s.encode, rfl, s.toCenteredShape.encode_plain, ?_⟩
    rw [ShapeKind.decode, Sphere.decode_encode hs]
    rfl
  | @polygon q hq =>
    refine ⟨q.encode, rfl, q.encode_plain, ?_⟩
    rw [ShapeKind.decode, Polygon.decode_encode hq]
    rfl

/-! ### GeoJSON documents -/

/-- A shape and what it is after the way through its GeoJSON document: the ring of a polygon is
closed by its first point if it is open, for which it can count what its ends share. -/
inductive ThroughGeoJson (shared : Sharing) : Value → Value → Prop where
  | point (p : Point) : ThroughGeoJson shared (.point p) (.point p)
  | box (b : Box) : ThroughGeoJson shared (.box b) (.box b)
  | closed {q : Polygon} (h : q.Closed shared) : ThroughGeoJson shared (.polygon q) (.polygon q)
  | opened {q : Polygon} {first : Point} (hfirst : q.points.head? = some first)
    (h : ¬ q.Closed shared) :
    ThroughGeoJson shared (.polygon q) (.polygon ⟨q.points ++ [first]⟩)

variable {shared : Sharing}

theorem Point.pair_plain (p : Point) : Plain p.pair := by
  simp [Point.pair, Plain, PlainItems]

theorem geoJsonDocument_plain (type : String) {coordinates : Value} (h : Plain coordinates) :
    Plain (.document (geoJsonDocument type coordinates)) := by
  simp [geoJsonDocument, Plain, Json.PlainFields, h]

theorem ringCoordinates_plain (ring : List Point) : Plain (ringCoordinates ring) := by
  simp [ringCoordinates, Plain, PlainItems, plainItems_map Point.pair_plain]

/-- A document of a ring is written of a polygon, and read as the polygon of that ring. -/
theorem Polygon.through_geoJson {q : Polygon} {ring : List Point} (hring : q.closed shared = some ring)
    (hne : ring ≠ []) : ∃ d, encodeGeoJson shared (.polygon q) = .ok (some d) ∧
      Plain (.document d) ∧ ShapeKind.polygon.decode (.document d) = .ok (.polygon ⟨ring⟩) := by
  refine ⟨_, encodeGeoJson_polygon .bare hring, ?_, ?_⟩
  · exact geoJsonDocument_plain _ (ringCoordinates_plain ring)
  · rw [ShapeKind.decode, Polygon.decode_geoJson hne]
    rfl

/-- **An admitted point, box or polygon has a GeoJSON document, which is read as that shape with
its ring closed.** -/
theorem ShapeKind.Admits.decode_geoJson {kind : ShapeKind} {s : Value} (h : kind.Admits s)
    (hkind : kind ∈ [.point, .box, .polygon]) :
    ∃ d t, encodeGeoJson shared s = .ok (some d) ∧ Plain (.document d) ∧ ThroughGeoJson shared s t ∧
      kind.decode (.document d) = .ok t ∧ kind.Admits t := by
  cases h with
  | point p =>
    refine ⟨_, _, encodeGeoJson_point .bare, ?_, .point p, ?_, .point p⟩
    · exact geoJsonDocument_plain _ p.pair_plain
    · rw [ShapeKind.decode, Point.decode_geoJson]
      rfl
  | box b =>
    refine ⟨_, _, encodeGeoJson_box .bare, ?_, .box b, ?_, .box b⟩
    · exact geoJsonDocument_plain _ (ringCoordinates_plain b.ring)
    · rw [ShapeKind.decode, Box.decode_geoJson]
      rfl
  | circle => simp at hkind
  | sphere => simp at hkind
  | @polygon q hq =>
    by_cases hclosed : q.Closed shared
    · obtain ⟨d, hd, hplain, hread⟩ := Polygon.through_geoJson (q.closed_eq_self hq hclosed) hq
      exact ⟨d, _, hd, hplain, .closed hclosed, hread, .polygon hq⟩
    · obtain ⟨first, hfirst⟩ := Polygon.bounded_iff_head.mp hq
      have hne : q.points ++ [first] ≠ [] := by simp
      obtain ⟨d, hd, hplain, hread⟩ :=
        Polygon.through_geoJson (Polygon.closed_eq_append hfirst hclosed) hne
      exact ⟨d, _, hd, hplain, .opened hfirst hclosed, hread, .polygon hne⟩

end ShapeCodec
