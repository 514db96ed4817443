/-
# What can be produced

A value is produced by acceptance as one of the classes, or by a reader, or it is data that was
handed in: data of no class of this library, made of what was produced before. Acceptance keeps
an instance as it is, without a second look, and reads a document field by field; the readers
build shapes of what they read. However a shape came about, it is one that is admitted: the check
of its radius or of its points comes last on every way to it.

So the invariant `Value.Sound` holds of everything that is produced (`Produced.sound`), and there
is no stronger one, for whatever is sound can be produced (`produced_iff_sound`). The writers rely
on it without checking: a radius is divided by the multiplier of its metric, and the ring of a
polygon is closed by its first point.

Key definitions: `Value.Sound`, `Produced`, `ShapeKind.toClass`, `Value.Measured`,
`ShapeKind.WellFormed`.
Key theorems: `Class.accept_sound`, `produced_iff_sound`, `ShapeKind.Admits.wellFormed`,
`produced_wellFormed`.
-/
import ShapeCodec.Catalogue
import ShapeCodec.Proofs.GeoJson.TypeText
import ShapeCodec.Proofs.Shape.Admission
import ShapeCodec.Proofs.Shape.Denotation
import ShapeCodec.Proofs.Value.Parts

namespace ShapeCodec

open Json (Plain)

/-! ### The invariant -/

/-- A value in which every circle and every sphere is proper, every polygon bounded and every
command named. -/
def Value.Sound (v : Value) : Prop := v.Throughout Value.Valid

theorem ShapeKind.Admits.valid {kind : ShapeKind} {s : Value} (h : kind.Admits s) : s.Valid := by
  cases h with
  | point | box => trivial
  | circle h | sphere h | polygon h => exact h

/-- A shape is made of numbers, and not of values. -/
theorem ShapeKind.Admits.sound {kind : ShapeKind} {s : Value} (h : kind.Admits s) : s.Sound := by
  refine .intro h.valid fun part hpart => ?_
  cases h <;> cases hpart

theorem acceptOperator_ne {v : Value} {name : String} (h : acceptOperator v = .accepted name) :
    name ≠ "" := by
  unfold acceptOperator at h
  split at h
  · split at h
    · cases h
    · next hne =>
      obtain rfl := Verdict.accepted.inj h
      simpa using hne
  · cases h

theorem acceptOperator_text {name : String} (hname : name ≠ "") :
    acceptOperator (.text name) = .accepted name := by
  simp [acceptOperator, Value.text?, hname]

/-- A command is made of any name that is not empty and any value. -/
theorem GeoCommand.ofParts_text {name : String} (hname : name ≠ "") (shape : Value) :
    GeoCommand.ofParts (.text name) shape = .accepted ⟨name, shape⟩ := by
  rw [GeoCommand.ofParts, acceptOperator_text hname]
  rfl

theorem acceptGeoJson_sound {v s : Value} (hv : v.Sound) (h : acceptGeoJson v = .accepted s) :
    s.Sound := by
  unfold acceptGeoJson at h
  split at h
  · obtain rfl := Verdict.accepted.inj h
    exact hv
  · next fields =>
    obtain ⟨geometry, hgeometry, rfl⟩ := Verdict.map_eq_accepted.mp h
    obtain ⟨w, hfield, hw⟩ := acceptField_eq_accepted.mp hgeometry
    obtain rfl := Verdict.accepted.inj hw
    refine .intro trivial fun part hpart => ?_
    obtain rfl := List.mem_singleton.mp hpart
    exact hv.field hfield
  · cases h

theorem GeoCommand.accept_sound {v : Value} {c : GeoCommand} (hv : v.Sound)
    (h : GeoCommand.accept v = .accepted c) : c.toValue.Sound := by
  unfold GeoCommand.accept at h
  split at h
  · obtain rfl := Verdict.accepted.inj h
    exact hv
  · next fields =>
    obtain ⟨⟨command, shape⟩, hboth, rfl⟩ := Verdict.map_eq_accepted.mp h
    obtain ⟨hcommand, hshape⟩ := Verdict.both_eq_accepted.mp hboth
    obtain ⟨name, -, hname⟩ := acceptField_eq_accepted.mp hcommand
    obtain ⟨w, hfield, hw⟩ := acceptField_eq_accepted.mp hshape
    obtain rfl := Verdict.accepted.inj hw
    refine .intro (acceptOperator_ne hname) fun part hpart => ?_
    obtain rfl := List.mem_singleton.mp hpart
    exact hv.field hfield
  · cases h

/-- **Acceptance keeps the invariant**, as whichever class. -/
theorem Class.accept_sound {c : Class} {v s : Value} (hv : v.Sound)
    (h : c.accept? v = some (.accepted s)) : s.Sound := by
  have hkind : ∀ kind : ShapeKind, some (kind.accept v) = some (.accepted s) → s.Sound := by
    intro kind haccept
    exact (ShapeKind.admits_of_valid hv.here (Option.some.inj haccept)).sound
  cases c with
  | point => exact hkind .point h
  | box => exact hkind .box h
  | circle => exact hkind .circle h
  | sphere => exact hkind .sphere h
  | polygon => exact hkind .polygon h
  | distance =>
    obtain ⟨d, -, rfl⟩ := Verdict.map_eq_accepted.mp (Option.some.inj h)
    exact .intro trivial nofun
  | geoJson => exact acceptGeoJson_sound hv (Option.some.inj h)
  | geoCommand =>
    obtain ⟨c, hc, rfl⟩ := Verdict.map_eq_accepted.mp (Option.some.inj h)
    exact GeoCommand.accept_sound hv hc
  | _ => cases h

/-- What is read is null or sound, whatever it was read from. -/
theorem ShapeKind.decode_sound {kind : ShapeKind} {v s : Value} (h : kind.decode v = .ok s) :
    s.Sound := by
  by_cases hs : s = .null
  · subst hs
    exact .intro trivial nofun
  · exact (ShapeKind.admits_of_decode h hs).sound

theorem Geometry.decode_bounded {v : Value} {q : Polygon}
    (h : Geometry.decode v = .ok (some (.polygon q))) : q.Bounded := by
  cases v with
  | document fields =>
    rcases Geometry.decode_eq_ok.mp h with ⟨-, p, -, hq⟩ | ⟨-, other, hread, hq⟩
    · cases hq
    · obtain rfl := Geometry.polygon.inj hq
      exact (Polygon.ofGeoJson_eq_ok.mp hread).1
  | _ => cases h

/-- A point or a polygon is read from GeoJSON, and a polygon has points. -/
theorem decodeGeoJson_admits {v s : Value} (h : decodeGeoJson v = .ok s) (hs : s ≠ .null) :
    ∃ kind ∈ [ShapeKind.point, ShapeKind.polygon], ∃ g, s = .geoJson g ∧ kind.Admits g := by
  obtain ⟨g, hg, rfl⟩ := map_eq_ok.mp h
  cases g with
  | none => exact absurd rfl hs
  | some g =>
    cases g with
    | point p => exact ⟨.point, by simp, .point p, rfl, .point p⟩
    | polygon q =>
      exact ⟨.polygon, by simp, .polygon q, rfl, .polygon (Geometry.decode_bounded hg)⟩

theorem decodeGeoJson_sound {v s : Value} (h : decodeGeoJson v = .ok s) : s.Sound := by
  by_cases hs : s = .null
  · subst hs
    exact .intro trivial nofun
  · obtain ⟨kind, -, g, rfl, hg⟩ := decodeGeoJson_admits h hs
    refine .intro trivial fun part hpart => ?_
    obtain rfl := List.mem_singleton.mp hpart
    exact hg.sound

/-! ### Production -/

/-- A value of a class of this library that is not data by itself. -/
def Value.IsInstance : Value → Prop
  | .point _ | .box _ | .distance _ | .circle _ | .sphere _ | .polygon _ => True
  | .geoJson _ | .geoCommand _ _ => True
  | _ => False

/-- The values that can be produced: data that is made of them, what is accepted from them as one
of the classes, and what is read from any value. -/
inductive Produced : Value → Prop where
  | data {v : Value} (hv : ¬ v.IsInstance) (h : ∀ part ∈ v.parts, Produced part) : Produced v
  | accepted {c : Class} {v s : Value} (hv : Produced v) (h : c.accept? v = some (.accepted s)) :
    Produced s
  | read {kind : ShapeKind} {v s : Value} (h : kind.decode v = .ok s) : Produced s
  | readGeoJson {v s : Value} (h : decodeGeoJson v = .ok s) : Produced s

theorem Value.valid_of_not_instance {v : Value} (h : ¬ v.IsInstance) : v.Valid := by
  cases v with
  | circle | sphere | polygon | geoCommand => exact absurd trivial h
  | _ => trivial

/-- **Everything that is produced is sound.** -/
theorem Produced.sound {v : Value} (h : Produced v) : v.Sound := by
  induction h with
  | data hv _ ih => exact .intro (Value.valid_of_not_instance hv) ih
  | accepted _ h ih => exact Class.accept_sound ih h
  | read h => exact ShapeKind.decode_sound h
  | readGeoJson h => exact decodeGeoJson_sound h

theorem plain_parts {v : Value} (h : Plain v) :
    ¬ v.IsInstance ∧ ∀ part ∈ v.parts, Plain part := by
  cases v with
  | null | bool | int | float | text => exact ⟨id, nofun⟩
  | list items =>
    unfold Plain at h
    exact ⟨id, Json.plainItems_iff.mp h⟩
  | document fields =>
    unfold Plain at h
    exact ⟨id, Json.plainFields_iff.mp h.2⟩
  | _ =>
    unfold Plain at h
    exact h.elim

theorem Produced.of_plain {v : Value} (h : Plain v) : Produced v := by
  induction v using Value.induct_parts with
  | step v ih =>
    obtain ⟨hv, hparts⟩ := plain_parts h
    exact .data hv fun part hpart => ih part hpart (hparts part hpart)

/-- The class of the shapes of a kind. -/
def ShapeKind.toClass : ShapeKind → Class
  | .point => .point
  | .box => .box
  | .circle => .circle
  | .sphere => .sphere
  | .polygon => .polygon

theorem ShapeKind.accept?_toClass (kind : ShapeKind) (v : Value) :
    kind.toClass.accept? v = some (kind.accept v) := by
  cases kind <;> rfl

theorem ShapeKind.Admits.produced {kind : ShapeKind} {s : Value} (h : kind.Admits s) :
    Produced s := by
  obtain ⟨form, -, hplain, haccept⟩ := h.accept_plain
  have hclass : kind.toClass.accept? form = some (.accepted s) := by
    rw [kind.accept?_toClass, haccept]
  exact .accepted (.of_plain hplain) hclass

theorem Distance.produced (d : Distance) : Produced (.distance d) := by
  have haccept : Class.distance.accept? d.plain = some (.accepted (.distance d)) := by
    rw [Class.accept?, Distance.accept_plain, Verdict.map_accepted]
  exact .accepted (.of_plain d.plain_plain) haccept

/-- A wrapper is accepted from the document of what it holds. -/
theorem Produced.wrapped {geometry : Value} (h : Produced geometry) :
    Produced (.geoJson geometry) := by
  have hdocument : Produced (.document [("geometry", geometry)]) := by
    refine .data id fun part hpart => ?_
    obtain rfl := List.mem_singleton.mp hpart
    exact h
  have haccept : Class.geoJson.accept? (.document [("geometry", geometry)]) =
      some (.accepted (.geoJson geometry)) := rfl
  exact .accepted hdocument haccept

/-- So is a command that has a name. -/
theorem Produced.commanded {shape : Value} {command : String} (h : Produced shape)
    (hcommand : command ≠ "") : Produced (.geoCommand command shape) := by
  have hdocument : Produced (.document [("command", .text command), ("shape", shape)]) := by
    refine .data id fun part hpart => ?_
    rcases List.mem_pair.mp hpart with rfl | rfl
    · exact .of_plain trivial
    · exact h
  have haccept : Class.geoCommand.accept? (.document [("command", .text command),
      ("shape", shape)]) = some (.accepted (.geoCommand command shape)) := by
    have hname : acceptField [("command", .text command), ("shape", shape)] "command"
        acceptOperator = .accepted command :=
      acceptField_eq_accepted.mpr ⟨.text command, by simp, acceptOperator_text hcommand⟩
    rw [Class.accept?, GeoCommand.accept, hname]
    rfl
  exact .accepted hdocument haccept

/-- **The values that can be produced are exactly the sound ones.** -/
theorem produced_iff_sound (v : Value) : Produced v ↔ v.Sound := by
  constructor
  · exact Produced.sound
  · intro h
    induction h with
    | @intro v hvalid _ ih =>
      cases v with
      | point p => exact (ShapeKind.Admits.point p).produced
      | box b => exact (ShapeKind.Admits.box b).produced
      | distance d => exact d.produced
      | circle c => exact (ShapeKind.Admits.circle hvalid).produced
      | sphere s => exact (ShapeKind.Admits.sphere hvalid).produced
      | polygon q => exact (ShapeKind.Admits.polygon hvalid).produced
      | geoJson geometry => exact .wrapped (ih geometry (List.mem_singleton.mpr rfl))
      | geoCommand command shape =>
        exact .commanded (ih shape (List.mem_singleton.mpr rfl)) hvalid
      | _ => exact .data id ih

/-! ### Measured forms -/

/-- Plain data in which the name of a metric stands in each field for one, every other leaf is a
double, and no list is empty. -/
inductive Value.Measured : Value → Prop where
  | number (x : Float) : Measured (.float x)
  | row {items : List Value} (hne : items ≠ []) (h : ∀ v ∈ items, Measured v) :
    Measured (.list items)
  | document {fields : Document}
    (hmetric : ∀ field ∈ fields, field.1 = "metric" → ∃ m : Metric, field.2 = .text m.name)
    (h : ∀ field ∈ fields, field.1 ≠ "metric" → Measured field.2) : Measured (.document fields)

theorem Value.Measured.pair {first second : Value} {a b : String} (hfirst : first.Measured)
    (hsecond : second.Measured) (ha : a ≠ "metric") (hb : b ≠ "metric") :
    (Value.document [(a, first), (b, second)]).Measured := by
  apply Value.Measured.document
  · intro field hfield hname
    rcases List.mem_pair.mp hfield with rfl | rfl
    · exact absurd hname ha
    · exact absurd hname hb
  · intro field hfield _
    rcases List.mem_pair.mp hfield with rfl | rfl
    · exact hfirst
    · exact hsecond

theorem Point.plain_measured (p : Point) : p.plain.Measured :=
  .pair (.number p.x) (.number p.y) (by decide) (by decide)

theorem Box.plain_measured (b : Box) : b.plain.Measured :=
  .pair b.first.plain_measured b.second.plain_measured (by decide) (by decide)

theorem Distance.plain_measured (d : Distance) : d.plain.Measured := by
  apply Value.Measured.document
  · intro field hfield hname
    rcases List.mem_pair.mp hfield with rfl | rfl
    · exact absurd hname (show "value" ≠ "metric" by decide)
    · exact ⟨d.metric, rfl⟩
  · intro field hfield hname
    rcases List.mem_pair.mp hfield with rfl | rfl
    · exact .number d.value
    · exact absurd rfl hname

theorem CenteredShape.plain_measured (s : CenteredShape) : s.plain.Measured :=
  .pair s.center.plain_measured s.radius.plain_measured (by decide) (by decide)

theorem Polygon.plain_measured {q : Polygon} (h : q.Bounded) : q.plain.Measured := by
  have hrow : (Value.list (q.points.map Point.plain)).Measured := by
    apply Value.Measured.row
    · exact mt List.map_eq_nil_iff.mp h
    · rw [List.forall_mem_map]
      exact fun p _ => p.plain_measured
  apply Value.Measured.document
  · intro field hfield hname
    obtain rfl := List.mem_singleton.mp hfield
    exact absurd hname (show "points" ≠ "metric" by decide)
  · intro field hfield _
    obtain rfl := List.mem_singleton.mp hfield
    exact hrow

theorem ShapeKind.Admits.plain_measured {kind : ShapeKind} {s : Value} (h : kind.Admits s) :
    ∃ form, s.plain = .ok form ∧ form.Measured := by
  cases h with
  | point p => exact ⟨p.plain, rfl, p.plain_measured⟩
  | box b => exact ⟨b.plain, rfl, b.plain_measured⟩
  | @circle c _ => exact ⟨c.toCenteredShape.plain, rfl, c.toCenteredShape.plain_measured⟩
  | @sphere s _ => exact ⟨s.toCenteredShape.plain, rfl, s.toCenteredShape.plain_measured⟩
  | @polygon q hq => exact ⟨q.plain, rfl, Polygon.plain_measured hq⟩

/-! ### What the writers rely on -/

/-- What holds of a shape of a kind that was produced: it is admitted, its plain form is measured,
and no writer that is meant for it fails, bare or in a wrapper. -/
structure ShapeKind.WellFormed (kind : ShapeKind) (s : Value) : Prop where
  admitted : kind.Admits s
  measured : ∃ form, s.plain = .ok form ∧ form.Measured
  legacy : ∃ d, kind.encode? s = some d ∧ Plain (.document d)
  geoJson : kind ∈ [.point, .box, .polygon] → ∀ shared v, Presents s v →
    ∃ d, encodeGeoJson shared v = .ok (some d) ∧ Plain (.document d)
  command : kind ≠ .point → ∀ name, ∃ arguments, arguments ≠ [] ∧
    GeoCommand.encode true ⟨name, s⟩ = .ok ([(name, .list arguments)], [])

/-- A geometry is written the same in a wrapper. -/
theorem ShapeKind.Admits.presents {kind : ShapeKind} {s v : Value} (h : kind.Admits s)
    (hv : Presents s v) (shared : Sharing) : encodeGeoJson shared v = encodeGeoJson shared s := by
  cases hv with
  | bare => rfl
  | wrapped => cases h <;> rfl

theorem ShapeKind.Admits.arguments {kind : ShapeKind} {s : Value} (h : kind.Admits s)
    (hkind : kind ≠ .point) : ∃ arguments, s.arguments? = some arguments ∧ arguments ≠ [] := by
  cases h with
  | point => exact absurd rfl hkind
  | box b => exact ⟨_, rfl, List.cons_ne_nil _ _⟩
  | circle => exact ⟨_, rfl, List.cons_ne_nil _ _⟩
  | sphere => exact ⟨_, rfl, List.cons_ne_nil _ _⟩
  | polygon hq => exact ⟨_, rfl, mt List.map_eq_nil_iff.mp hq⟩

/-- **The writers are total on admitted shapes.** -/
theorem ShapeKind.Admits.wellFormed {kind : ShapeKind} {s : Value} (h : kind.Admits s) :
    kind.WellFormed s where
  admitted := h
  measured := h.plain_measured
  legacy := by
    obtain ⟨d, hd, hplain, -⟩ := h.decode_encode
    exact ⟨d, hd, hplain⟩
  geoJson hkind shared v hv := by
    obtain ⟨d, -, hd, hplain, -⟩ := h.decode_geoJson hkind
    exact ⟨d, (h.presents hv shared).trans hd, hplain⟩
  command hkind name := by
    obtain ⟨arguments, harguments, hne⟩ := h.arguments hkind
    refine ⟨arguments, hne, ?_⟩
    unfold GeoCommand.encode
    rw [harguments]

/-- **Every shape that is accepted or read is well-formed**: from whatever was produced where it
is accepted, from any value at all where it is read. A distance that is accepted is measured, and
the multiplier by which the writers divide a distance is positive in every metric. -/
theorem produced_wellFormed (v : Value) :
    (Produced v → (∀ (kind : ShapeKind) (s : Value), kind.accept v = .accepted s →
        kind.WellFormed s) ∧
      ∀ d : Distance, Distance.accept v = .accepted d → d.plain.Measured) ∧
    (∀ (kind : ShapeKind) (s : Value), kind.decode v = .ok s → s ≠ .null → kind.WellFormed s) ∧
    (∀ s : Value, decodeGeoJson v = .ok s → s ≠ .null →
      ∃ kind ∈ [ShapeKind.point, ShapeKind.polygon], ∃ g, s = .geoJson g ∧ kind.WellFormed g) ∧
    ∀ m : Metric, 0 < m.multiplier := by
  have haccept : Produced v → ∀ (kind : ShapeKind) (s : Value), kind.accept v = .accepted s →
      kind.WellFormed s := by
    intro hv kind s h
    exact (ShapeKind.admits_of_valid hv.sound.here h).wellFormed
  refine ⟨fun hv => ⟨haccept hv, fun d _ => d.plain_measured⟩, ?_, ?_, Metric.multiplier_pos⟩
  · intro kind s hread hs
    exact (ShapeKind.admits_of_decode hread hs).wellFormed
  · intro s hread hs
    obtain ⟨kind, hkind, g, hg, hadmits⟩ := decodeGeoJson_admits hread hs
    exact ⟨kind, hkind, g, hg, hadmits.wellFormed⟩

/-- A circle of a center that is an instance already and of a bare whole number for a radius. -/
theorem produced_wellFormed_bare :
    let center : Value := .point ⟨1.5, 2.5⟩
    let v : Value := .document [("center", center), ("radius", .int 3)]
    let radius : Distance := ⟨Float.ofScientific 3 false 0, .neutral⟩
    Produced v ∧ ShapeKind.circle.accept v = .accepted (.circle ⟨⟨⟨1.5, 2.5⟩, radius⟩⟩) ∧
      ShapeKind.circle.WellFormed (.circle ⟨⟨⟨1.5, 2.5⟩, radius⟩⟩) := by
  intro center v radius
  have hv : Produced v := by
    refine .data id fun part hpart => ?_
    rcases List.mem_pair.mp hpart with rfl | rfl
    · exact (ShapeKind.Admits.point ⟨1.5, 2.5⟩).produced
    · exact .of_plain trivial
  have hthree : (Value.int 3).acceptNumber = .accepted radius.value :=
    Value.acceptNumber_eq_accepted.mpr (Or.inr ⟨3, rfl, floatOfInt?_ofNat (by decide +kernel)⟩)
  have hradius : Distance.acceptRadius (.int 3) = .accepted radius := by
    have hpositive : ¬ radius.value < 0 := by decide +kernel
    have hnumber : Distance.ofNumber (.int 3) = .accepted radius := by
      rw [Distance.ofNumber, hthree]
      rfl
    rw [Distance.acceptRadius, hnumber]
    exact Distance.asRadius_of_not_lt hpositive
  have haccept : ShapeKind.circle.accept v = .accepted (.circle ⟨⟨⟨1.5, 2.5⟩, radius⟩⟩) := by
    have hfield : acceptField [("center", center), ("radius", .int 3)] "radius"
        Distance.acceptRadius = .accepted radius :=
      acceptField_eq_accepted.mpr ⟨.int 3, rfl, hradius⟩
    rw [ShapeKind.accept, Circle.accept, CenteredShape.acceptFields, hfield]
    rfl
  exact ⟨hv, haccept, ((produced_wellFormed v).1 hv).1 .circle _ haccept⟩

end ShapeCodec
