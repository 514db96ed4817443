/-
# Acceptance and the readers of legacy documents

A legacy document can be made into a shape in two ways: it can be accepted, field by field, or
read. Acceptance passes over fields it does not ask for and never takes a pair for a point; a
reader wants exactly the fields of a point, stops at the first fault, and takes a radius for
radians whatever the metric. On a document without a type, what both make of it is the same shape
(`readers_agree`), so long as the radius of a circle is a bare number in the neutral metric. Where
in addition no point is anything but a document of exactly its two fields, one of the ways succeeds
exactly if the other does.

The ways are compared part by part: each is told by the parts of the document that it reads, and
the parts are points (`Point.accept_agrees`), a radius (`radius_agrees`) or a row of points
(`row_same`, `row_iff`).

Key definitions: `ShapeKind.places`, `ShapeKind.Untyped`, `ShapeKind.Exact`, `BareRadius`,
`Agrees`.
Key theorems: `Point.accept_agrees`, `radius_agrees`, `readers_agree`.
-/
import ShapeCodec.Proofs.Shape.Denotation
import ShapeCodec.Shape.Kind

namespace ShapeCodec

variable {α : Type} {fields : Document}

/-! ### Where the points are -/

/-- The values that stand for points where a document is taken for a shape of a kind. -/
def ShapeKind.places (kind : ShapeKind) (fields : Document) : List Value :=
  match kind with
  | .point => [.document fields]
  | .box => [fieldOrNull fields "first", fieldOrNull fields "second"]
  | .circle => [fieldOrNull fields "center"]
  | .sphere => [fieldOrNull fields "center"]
  | .polygon => (fieldOrNull fields "points").items?.getD []

/-- A value that is no document with a type. -/
def Value.Untyped (v : Value) : Prop := ∀ fields, v = .document fields → fields.lookup "type" = none

/-- The kinds of shapes with a radius. -/
def ShapeKind.centered : List ShapeKind := [.circle, .sphere]

/-- A document without a type in a point of it, and without one of its own, unless it is taken for
a circle or a sphere, which have no type. -/
structure ShapeKind.Untyped (kind : ShapeKind) (fields : Document) : Prop where
  here : kind ∉ ShapeKind.centered → fields.lookup "type" = none
  inside : ∀ v ∈ kind.places fields, v.Untyped

/-- A document of exactly the fields `x` and `y`. -/
def Value.Exact (v : Value) : Prop := ∃ fields x y, v = .document fields ∧ FieldsOf fields x y

/-- A document whose points are documents of exactly their two fields, absent or null. -/
def ShapeKind.Exact (kind : ShapeKind) (fields : Document) : Prop :=
  ∀ v ∈ kind.places fields, v = .null ∨ v.Exact

/-- A document with a radius that is neither a document nor a distance, in the neutral metric or
in none. -/
structure BareRadius (fields : Document) : Prop where
  notDocument : ∀ inner, fieldOrNull fields "radius" ≠ .document inner
  notDistance : ∀ d, fieldOrNull fields "radius" ≠ .distance d
  metric : ∀ v, fields.lookup "metric" = some v → v.metric? = some .neutral

/-! ### Agreement -/

/-- An acceptance and a reader that agree: they make nothing different of a value, and under a
condition they make something of the same values. -/
structure Agrees (exact : Prop) (v : Verdict α) (r : Except Fault α) : Prop where
  same : ∀ {a b}, v = .accepted a → r = .ok b → a = b
  iff : exact → ∀ a, v = .accepted a ↔ r = .ok a

/-! ### Points -/

/-- The fields `x` and `y` of a document that may have others. -/
def NamesOf (fields : Document) (x y : Value) : Prop :=
  fields.lookup "x" = some x ∧ fields.lookup "y" = some y

theorem Point.accept_document {p : Point} :
    Point.accept (.document fields) = .accepted p ↔ p.StandsAt (NamesOf fields) := by
  rw [Point.accept]
  constructor
  · intro h
    obtain ⟨⟨a, b⟩, hboth, rfl⟩ := Verdict.map_eq_accepted.mp h
    obtain ⟨ha, hb⟩ := Verdict.both_eq_accepted.mp hboth
    obtain ⟨x, hx, hxa⟩ := acceptField_eq_accepted.mp ha
    obtain ⟨y, hy, hyb⟩ := acceptField_eq_accepted.mp hb
    exact ⟨x, y, ⟨hx, hy⟩, Value.acceptNumber_eq_accepted.mp hxa,
      Value.acceptNumber_eq_accepted.mp hyb⟩
  · rintro ⟨x, y, ⟨hx, hy⟩, hxp, hyp⟩
    have ha : acceptField fields "x" Value.acceptNumber = .accepted p.x :=
      acceptField_eq_accepted.mpr ⟨x, hx, Value.acceptNumber_eq_accepted.mpr hxp⟩
    have hb : acceptField fields "y" Value.acceptNumber = .accepted p.y :=
      acceptField_eq_accepted.mpr ⟨y, hy, Value.acceptNumber_eq_accepted.mpr hyp⟩
    rw [ha, hb]
    rfl

theorem hasType_of_lookup (h : fields.lookup "type" = none) (type : String) :
    hasType fields type = false := by
  simp [hasType, h]

/-- An untyped document is read as a point by its fields. -/
theorem Point.ofValue_document (h : fields.lookup "type" = none) :
    Point.ofValue (.document fields) = Point.ofFields fields := by
  simp [Point.ofValue, Value.items?, Point.ofDocument, hasType_of_lookup h]

/-- What is read of the fields is accepted of them. -/
theorem Point.accept_of_ofFields {p : Point} (h : Point.ofFields fields = .ok p) :
    Point.accept (.document fields) = .accepted p := by
  obtain ⟨x, y, ⟨-, hx, hy⟩, hp⟩ := Point.ofFields_eq_ok.mp h
  exact Point.accept_document.mpr ⟨x, y, ⟨hx, hy⟩, hp⟩

/-- **Points agree**: on a value without a type, and exactly on a document of two fields. -/
theorem Point.accept_agrees {v : Value} (htype : v.Untyped) :
    Agrees (v = .null ∨ v.Exact) (Point.accept v) (Point.ofValue v) where
  same {p q} hp hq := by
    cases v with
    | document fields =>
      rw [Point.ofValue_document (htype fields rfl)] at hq
      exact Verdict.accepted.inj (hp.symm.trans (Point.accept_of_ofFields hq))
    | point => cases hq
    | _ => cases hp
  iff := by
    rintro (rfl | ⟨fields, x, y, rfl, hfields⟩) p
    · simp [Point.accept, Verdict.refuse, Point.ofValue, Value.items?]
    · rw [Point.ofValue_document (htype fields rfl)]
      refine ⟨fun h => ?_, Point.accept_of_ofFields⟩
      obtain ⟨x', y', hnames, hp⟩ := Point.accept_document.mp h
      exact Point.ofFields_eq_ok.mpr ⟨x', y', ⟨hfields.1, hnames⟩, hp⟩

/-- A field that is accepted is not null. -/
theorem acceptField_fieldOrNull {name : String} {accept : Value → Verdict α} {a : α}
    (hnull : accept .null ≠ .accepted a) :
    acceptField fields name accept = .accepted a ↔
      accept (fieldOrNull fields name) = .accepted a := by
  rw [acceptField_eq_accepted, fieldOrNull]
  cases fields.lookup name with
  | none => simpa using hnull
  | some v => simp

theorem Point.acceptField_iff {name : String} {p : Point} :
    acceptField fields name Point.accept = .accepted p ↔
      Point.accept (fieldOrNull fields name) = .accepted p :=
  acceptField_fieldOrNull (by simp [Point.accept, Verdict.refuse])

/-! ### Boxes -/

theorem Box.accept_document {b : Box} : Box.accept (.document fields) = .accepted b ↔
    Point.accept (fieldOrNull fields "first") = .accepted b.first ∧
      Point.accept (fieldOrNull fields "second") = .accepted b.second := by
  rw [← Point.acceptField_iff, ← Point.acceptField_iff, Box.accept, Verdict.map_eq_accepted]
  constructor
  · rintro ⟨⟨first, second⟩, hboth, rfl⟩
    exact Verdict.both_eq_accepted.mp hboth
  · intro h
    exact ⟨(b.first, b.second), Verdict.both_eq_accepted.mpr h, rfl⟩

/-- A corner that is read and there. -/
theorem pointField_eq_ok {name : String} {p : Point} :
    pointField fields name = .ok (some p) ↔ Point.ofValue (fieldOrNull fields name) = .ok p := by
  show Point.decode (fieldOrNull fields name) = _ ↔ _
  unfold Point.decode
  split
  · next h => simp [h, Point.ofValue, Value.items?]
  · next h => simp [map_eq_ok]

theorem present_eq_ok {part : String} {r : Option α} {a : α} :
    present part r = .ok a ↔ r = some a := by
  cases r <;> simp [present]

theorem Box.ofDocument_eq_ok (htype : hasType fields "Polygon" = false) {b : Box} :
    Box.ofDocument fields = .ok b ↔
      Point.ofValue (fieldOrNull fields "first") = .ok b.first ∧
        Point.ofValue (fieldOrNull fields "second") = .ok b.second := by
  rw [← pointField_eq_ok, ← pointField_eq_ok, Box.ofDocument, htype]
  constructor
  · intro h
    obtain ⟨first, hfirst, h⟩ := bind_eq_ok.mp h
    obtain ⟨second, hsecond, h⟩ := bind_eq_ok.mp h
    obtain ⟨p, hp, h⟩ := bind_eq_ok.mp h
    obtain ⟨q, hq, h⟩ := bind_eq_ok.mp h
    obtain rfl := present_eq_ok.mp hp
    obtain rfl := present_eq_ok.mp hq
    obtain rfl := Except.ok.inj h
    exact ⟨hfirst, hsecond⟩
  · rintro ⟨hfirst, hsecond⟩
    exact bind_eq_ok.mpr ⟨_, hfirst, bind_eq_ok.mpr ⟨_, hsecond, rfl⟩⟩

theorem Box.accept_agrees (htype : fields.lookup "type" = none)
    (h : ∀ v ∈ ShapeKind.box.places fields, v.Untyped) :
    Agrees (ShapeKind.box.Exact fields) (Box.accept (.document fields))
      (Box.ofDocument fields) where
  same {a b} ha hb := by
    obtain ⟨ha₁, ha₂⟩ := Box.accept_document.mp ha
    obtain ⟨hb₁, hb₂⟩ := (Box.ofDocument_eq_ok (hasType_of_lookup htype _)).mp hb
    have hfirst : a.first = b.first :=
      (Point.accept_agrees (h _ (by simp [ShapeKind.places]))).same ha₁ hb₁
    have hsecond : a.second = b.second :=
      (Point.accept_agrees (h _ (by simp [ShapeKind.places]))).same ha₂ hb₂
    cases a
    cases b
    simp_all
  iff hexact b := by
    rw [Box.accept_document, Box.ofDocument_eq_ok (hasType_of_lookup htype _)]
    have hat : ∀ v ∈ ShapeKind.box.places fields, ∀ p,
        Point.accept v = .accepted p ↔ Point.ofValue v = .ok p := fun v hv =>
      (Point.accept_agrees (h v hv)).iff (hexact v hv)
    rw [hat _ (by simp [ShapeKind.places]), hat _ (by simp [ShapeKind.places])]

/-! ### Circles and spheres -/

theorem Distance.ofNumber_eq_accepted {v : Value} {d : Distance} :
    Distance.ofNumber v = .accepted d ↔ v.Denotes d.value ∧ d.metric = .neutral := by
  rw [Distance.ofNumber, Verdict.map_eq_accepted]
  constructor
  · rintro ⟨x, hx, rfl⟩
    exact ⟨Value.acceptNumber_eq_accepted.mp (Verdict.within_eq_accepted.mp hx), rfl⟩
  · rintro ⟨hx, hmetric⟩
    refine ⟨d.value, ?_, by rw [← hmetric]⟩
    rw [Value.acceptNumber_eq_accepted.mpr hx, Verdict.within_accepted]

/-- A radius that is accepted is a bare number, if it is no document and no distance. -/
theorem Distance.acceptRadius_bare {v : Value} {d : Distance}
    (hdocument : ∀ inner, v ≠ .document inner) (hdistance : ∀ d, v ≠ .distance d) :
    Distance.acceptRadius v = .accepted d ↔
      (Distance.ofNumber v).andThen Distance.asRadius = .accepted d := by
  cases v with
  | int | float => exact Iff.rfl
  | document inner => exact absurd rfl (hdocument inner)
  | distance d => exact absurd rfl (hdistance d)
  | _ => exact iff_of_false nofun nofun

theorem Metric.resolve_eq_ok {v : Value} {m : Metric} : Metric.resolve v = .ok m ↔ v.metric? = some m := by
  unfold Metric.resolve
  cases v.metric? with
  | none => cases v.literal <;> simp [bind, Except.bind]
  | some n => simp

theorem radiusInMetric_eq_ok {d e : Distance} : radiusInMetric fields d = .ok e ↔
    (fields.lookup "metric" = none ∧ e = d) ∨
      ∃ m, (fieldOrNull fields "metric").metric? = some m ∧ e = d.inMetric m := by
  unfold radiusInMetric fieldOrNull
  split
  · next hnone => simp [hnone, Value.metric?, Value.text?, eq_comm]
  · next hnull => simp [hnull, Value.metric?, Value.text?]
  · next name _ hname =>
    rw [map_eq_ok]
    simp only [Metric.resolve_eq_ok]
    simp [hname, eq_comm]

/-- In the neutral metric a neutral radius stays as it is. -/
theorem radiusInMetric_neutral {d : Distance} (hd : d.metric = .neutral)
    (h : ∀ v, fields.lookup "metric" = some v → v.metric? = some .neutral) :
    radiusInMetric fields d = .ok d := by
  unfold radiusInMetric
  split
  · rfl
  · next hnull => cases h .null hnull
  · next name _ hname =>
    rw [Metric.resolve, h name hname, Except.map, Distance.inMetric, if_pos hd.symm]

/-- The radius that a reader takes from a document. -/
def readRadius (kind : String) (fields : Document) : Except Fault Distance := do
  let distance ← (Distance.ofNumber (fieldOrNull fields "radius")).orMalformed (kind ++ " radius")
  let distance ← radiusInMetric fields distance
  distance.asRadius.orMalformed kind

/-- **Radii agree**, where they are bare. -/
theorem radius_agrees (kind : String) (h : BareRadius fields) (d : Distance) :
    Distance.acceptRadius (fieldOrNull fields "radius") = .accepted d ↔
      readRadius kind fields = .ok d := by
  rw [Distance.acceptRadius_bare h.notDocument h.notDistance, Verdict.andThen_eq_accepted]
  constructor
  · rintro ⟨e, he, hd⟩
    have hmetric : e.metric = .neutral := (Distance.ofNumber_eq_accepted.mp he).2
    exact bind_eq_ok.mpr ⟨e, Verdict.orMalformed_eq_ok.mpr he, bind_eq_ok.mpr
      ⟨e, radiusInMetric_neutral hmetric h.metric, Verdict.orMalformed_eq_ok.mpr hd⟩⟩
  · intro hread
    obtain ⟨e, he, hread⟩ := bind_eq_ok.mp hread
    obtain ⟨e', he', hd⟩ := bind_eq_ok.mp hread
    have hnumber := Verdict.orMalformed_eq_ok.mp he
    have hmetric : e.metric = .neutral := (Distance.ofNumber_eq_accepted.mp hnumber).2
    obtain rfl := Except.ok.inj ((radiusInMetric_neutral hmetric h.metric).symm.trans he')
    exact ⟨e, hnumber, Verdict.orMalformed_eq_ok.mp hd⟩

theorem CenteredShape.acceptFields_iff {s : CenteredShape} :
    CenteredShape.acceptFields fields = .accepted s ↔
      Point.accept (fieldOrNull fields "center") = .accepted s.center ∧
        Distance.acceptRadius (fieldOrNull fields "radius") = .accepted s.radius := by
  have hnull : Distance.acceptRadius .null ≠ .accepted s.radius := by
    simp [Distance.acceptRadius, Distance.accept, Verdict.refuse, Verdict.andThen]
  rw [← Point.acceptField_iff, ← acceptField_fieldOrNull hnull, CenteredShape.acceptFields,
    Verdict.map_eq_accepted]
  constructor
  · rintro ⟨⟨center, radius⟩, hboth, rfl⟩
    exact Verdict.both_eq_accepted.mp hboth
  · intro h
    exact ⟨(s.center, s.radius), Verdict.both_eq_accepted.mpr h, rfl⟩

theorem CenteredShape.ofParts_eq_accepted {center : Point} {radius : Distance} {s : CenteredShape} :
    CenteredShape.ofParts center radius = .accepted s ↔
      center = s.center ∧ radius.asRadius = .accepted s.radius := by
  rw [CenteredShape.ofParts, Verdict.map_eq_accepted]
  constructor
  · rintro ⟨checked, hchecked, rfl⟩
    exact ⟨rfl, Verdict.within_eq_accepted.mp hchecked⟩
  · rintro ⟨rfl, hradius⟩
    exact ⟨s.radius, Verdict.within_eq_accepted.mpr hradius, rfl⟩

theorem CenteredShape.ofDocument_eq_ok {kind : String} {s : CenteredShape} :
    CenteredShape.ofDocument kind fields = .ok s ↔
      Point.ofValue (fieldOrNull fields "center") = .ok s.center ∧
        readRadius kind fields = .ok s.radius := by
  constructor
  · intro h
    obtain ⟨center, hcenter, h⟩ := bind_eq_ok.mp h
    obtain ⟨radius, hradius, h⟩ := bind_eq_ok.mp h
    obtain ⟨d, hd, h⟩ := bind_eq_ok.mp h
    obtain ⟨e, he, h⟩ := bind_eq_ok.mp h
    obtain ⟨p, hp, hparts⟩ := bind_eq_ok.mp h
    obtain ⟨rfl, -⟩ := requiredField_eq_ok_iff.mp hcenter
    obtain ⟨rfl, -⟩ := requiredField_eq_ok_iff.mp hradius
    obtain ⟨rfl, hchecked⟩ :=
      CenteredShape.ofParts_eq_accepted.mp (Verdict.orMalformed_eq_ok.mp hparts)
    exact ⟨hp, bind_eq_ok.mpr ⟨d, hd, bind_eq_ok.mpr ⟨e, he,
      Verdict.orMalformed_eq_ok.mpr hchecked⟩⟩⟩
  · rintro ⟨hp, hradius⟩
    obtain ⟨d, hd, hradius⟩ := bind_eq_ok.mp hradius
    obtain ⟨e, he, hchecked⟩ := bind_eq_ok.mp hradius
    have hcenter : fieldOrNull fields "center" ≠ .null := by
      intro hnull
      rw [hnull] at hp
      cases hp
    have hgiven : fieldOrNull fields "radius" ≠ .null := by
      intro hnull
      rw [hnull] at hd
      cases hd
    have hparts : CenteredShape.ofParts s.center e = .accepted s :=
      CenteredShape.ofParts_eq_accepted.mpr ⟨rfl, Verdict.orMalformed_eq_ok.mp hchecked⟩
    exact bind_eq_ok.mpr ⟨_, requiredField_eq_ok_iff.mpr ⟨rfl, hcenter⟩, bind_eq_ok.mpr
      ⟨_, requiredField_eq_ok_iff.mpr ⟨rfl, hgiven⟩, bind_eq_ok.mpr ⟨d, hd, bind_eq_ok.mpr ⟨e, he,
        bind_eq_ok.mpr ⟨s.center, hp, Verdict.orMalformed_eq_ok.mpr hparts⟩⟩⟩⟩⟩

theorem CenteredShape.accept_agrees (kind : String) (hradius : BareRadius fields)
    (htype : (fieldOrNull fields "center").Untyped) :
    Agrees (fieldOrNull fields "center" = .null ∨ (fieldOrNull fields "center").Exact)
      (CenteredShape.acceptFields fields) (CenteredShape.ofDocument kind fields) where
  same {s t} hs ht := by
    obtain ⟨hs₁, hs₂⟩ := CenteredShape.acceptFields_iff.mp hs
    obtain ⟨ht₁, ht₂⟩ := CenteredShape.ofDocument_eq_ok.mp ht
    have hcenter : s.center = t.center := (Point.accept_agrees htype).same hs₁ ht₁
    have hsame : s.radius = t.radius :=
      Except.ok.inj (((radius_agrees kind hradius _).mp hs₂).symm.trans ht₂)
    cases s
    cases t
    simp_all
  iff hexact s := by
    rw [CenteredShape.acceptFields_iff, CenteredShape.ofDocument_eq_ok,
      (Point.accept_agrees htype).iff hexact, radius_agrees kind hradius]

/-! ### Rows of points -/

/-- A verdict that is no refusal without a complaint. -/
def Verdict.Explained (r : Verdict α) : Prop := r ≠ .refused []

section
variable {β : Type} {r : Verdict α} {s : Verdict β}

theorem Verdict.Explained.within (h : r.Explained) (place : String) : (r.within place).Explained := by
  cases r with
  | refused complaints =>
    intro hnil
    exact h (by simpa [Verdict.within] using hnil)
  | accepted | overflow => simp [Verdict.Explained, Verdict.within]

theorem Verdict.Explained.map (h : r.Explained) (f : α → β) : (r.map f).Explained := by
  cases r with
  | refused complaints =>
    intro hnil
    exact h (by simpa [Verdict.map] using hnil)
  | accepted | overflow => simp [Verdict.Explained, Verdict.map]

theorem Verdict.Explained.both (h : r.Explained) (hs : s.Explained) : (r.both s).Explained := by
  intro hnil
  cases r <;> cases s <;> simp_all [Verdict.both, Verdict.Explained]

theorem acceptField_explained {name : String} {accept : Value → Verdict α}
    (h : ∀ v, (accept v).Explained) : (acceptField fields name accept).Explained := by
  unfold acceptField
  split
  · exact (h _).within name
  · nofun

end

theorem Value.acceptNumber_explained (v : Value) : v.acceptNumber.Explained := by
  unfold Value.acceptNumber
  split
  · nofun
  · split <;> nofun
  · nofun

theorem Point.accept_explained (v : Value) : (Point.accept v).Explained := by
  unfold Point.accept
  split
  · nofun
  · exact ((acceptField_explained Value.acceptNumber_explained).both
      (acceptField_explained Value.acceptNumber_explained)).map _
  · nofun

/-- Elements that nothing is complained of are all accepted. -/
theorem acceptPoints_eq_some {elements : List Value} {points : List Point} (position : Nat) :
    acceptPoints position elements = some (points, []) ↔
      List.Forall₂ (fun v p => Point.accept v = .accepted p) elements points := by
  induction elements generalizing points position with
  | nil => simp [acceptPoints, eq_comm]
  | cons v rest ih =>
    rw [List.forall₂_cons_left_iff, acceptPoints]
    constructor
    · intro h
      split at h
      · cases h
      · cases h
      · next p others complaints hp hrest =>
        obtain ⟨rfl, rfl⟩ := Prod.mk.inj (Option.some.inj h)
        exact ⟨p, others, Verdict.within_eq_accepted.mp hp, (ih _).mp hrest, rfl⟩
      · next cs others complaints hcs _ =>
        obtain ⟨-, hnil⟩ := Prod.mk.inj (Option.some.inj h)
        rw [(List.append_eq_nil_iff.mp hnil).1] at hcs
        exact absurd hcs ((Point.accept_explained v).within _)
    · rintro ⟨p, others, hp, hrest, rfl⟩
      rw [Verdict.within_eq_accepted.mpr hp, (ih _).mpr hrest]

theorem Polygon.acceptElements_eq_accepted {elements : List Value} {q : Polygon} :
    Polygon.acceptElements elements = .accepted q ↔ q.Bounded ∧
      List.Forall₂ (fun v p => Point.accept v = .accepted p) elements q.points := by
  obtain ⟨points⟩ := q
  rw [← acceptPoints_eq_some 0]
  unfold Polygon.acceptElements Polygon.Bounded
  split
  · next h => simp [h]
  · next others complaints h =>
    rw [h]
    constructor
    · intro haccept
      split at haccept
      · cases haccept
      · next hne =>
        split at haccept
        · next hnil =>
          obtain rfl := Polygon.mk.inj (Verdict.accepted.inj haccept)
          rw [List.isEmpty_iff] at hnil hne
          exact ⟨hne, by rw [hnil]⟩
        · cases haccept
    · rintro ⟨hbounded, heq⟩
      obtain ⟨rfl, rfl⟩ := Prod.mk.inj (Option.some.inj heq)
      rw [if_neg (by simpa using hbounded)]
      rfl

/-- The parts of a shape, taken one by one, are no points; so what is accepted as a row is a list
or a tuple. -/
theorem Value.items?_of_row? {v : Value} {elements : List Value} {points : List Point}
    (hrow : v.row? = some elements)
    (h : List.Forall₂ (fun u p => Point.accept u = .accepted p) elements points) :
    v.items? = some elements := by
  have hnamed : ∀ name part rest, ¬ List.Forall₂ (fun u p => Point.accept u = .accepted p)
      (Value.named name part :: rest) points := by
    intro name part rest hrest
    obtain ⟨p, others, hp, -⟩ := List.forall₂_cons_left_iff.mp hrest
    cases hp
  cases v with
  | list | tuple => exact hrow
  | point | box | distance | circle | sphere | polygon | geoJson | geoCommand =>
    obtain rfl := Option.some.inj hrow
    exact absurd h (hnamed _ _ _)
  | _ => cases hrow

theorem Value.row?_of_items? {v : Value} {elements : List Value} (h : v.items? = some elements) :
    v.row? = some elements := by
  cases v with
  | list | tuple => exact h
  | _ => cases h

/-! ### Polygons -/

/-- A row of values and the points that each is taken for. -/
def RowOf (taken : Value → Point → Prop) (fields : Document) (q : Polygon) : Prop :=
  ∃ elements, (fieldOrNull fields "points").items? = some elements ∧ q.Bounded ∧
    List.Forall₂ taken elements q.points

theorem Polygon.accept_document {q : Polygon} : Polygon.accept (.document fields) = .accepted q ↔
    RowOf (fun v p => Point.accept v = .accepted p) fields q := by
  rw [Polygon.accept, acceptField_fieldOrNull (by simp [Value.row?, Value.elements?, Verdict.refuse])]
  constructor
  · intro h
    split at h
    · next elements hrow =>
      obtain ⟨hbounded, hpoints⟩ := Polygon.acceptElements_eq_accepted.mp h
      exact ⟨elements, Value.items?_of_row? hrow hpoints, hbounded, hpoints⟩
    · cases h
  · rintro ⟨elements, hitems, hpoints⟩
    rw [Value.row?_of_items? hitems]
    exact Polygon.acceptElements_eq_accepted.mpr hpoints

theorem Polygon.ofDocument_eq_ok (htype : hasType fields "Polygon" = false) {q : Polygon} :
    Polygon.ofDocument fields = .ok q ↔ RowOf (fun v p => Point.ofValue v = .ok p) fields q := by
  have hfield : Polygon.ofDocument fields = Polygon.ofPointsField fields := by
    rw [Polygon.ofDocument, htype]
    rfl
  rw [hfield, Polygon.ofPointsField_eq_ok]
  constructor
  · rintro ⟨hbounded, elements, hrow, hpoints⟩
    exact ⟨elements, hrow, hbounded, hpoints⟩
  · rintro ⟨elements, hrow, hbounded, hpoints⟩
    exact ⟨hbounded, elements, hrow, hpoints⟩

section
variable {accepted read : Value → Point → Prop} {elements : List Value} {points others : List Point}

/-- Two ways of taking the elements of a row that make nothing different of one of them make
nothing different of the row. -/
theorem row_same (h : ∀ v ∈ elements, ∀ p q, accepted v p → read v q → p = q)
    (haccepted : List.Forall₂ accepted elements points)
    (hread : List.Forall₂ read elements others) : points = others := by
  induction haccepted generalizing others with
  | nil =>
    cases hread
    rfl
  | cons hp _ ih =>
    obtain ⟨q, rest, hq, hrest, rfl⟩ := List.forall₂_cons_left_iff.mp hread
    rw [List.forall_mem_cons] at h
    rw [h.1 _ _ hp hq, ih h.2 hrest]

theorem row_iff (h : ∀ v ∈ elements, ∀ p, accepted v p ↔ read v p) :
    List.Forall₂ accepted elements points ↔ List.Forall₂ read elements points := by
  induction elements generalizing points with
  | nil => simp
  | cons v rest ih =>
    rw [List.forall_mem_cons] at h
    simp only [List.forall₂_cons_left_iff, h.1, ih h.2]

end

/-- The elements of the row of points are the points of the document. -/
theorem mem_places_polygon {elements : List Value}
    (h : (fieldOrNull fields "points").items? = some elements) :
    ShapeKind.polygon.places fields = elements := by
  rw [ShapeKind.places, h, Option.getD_some]

theorem Polygon.accept_agrees (htype : fields.lookup "type" = none)
    (h : ∀ v ∈ ShapeKind.polygon.places fields, v.Untyped) :
    Agrees (ShapeKind.polygon.Exact fields) (Polygon.accept (.document fields))
      (Polygon.ofDocument fields) where
  same {a b} ha hb := by
    obtain ⟨elements, hitems, -, ha⟩ := Polygon.accept_document.mp ha
    obtain ⟨elements', hitems', -, hb⟩ := (Polygon.ofDocument_eq_ok (hasType_of_lookup htype _)).mp hb
    obtain rfl := Option.some.inj (hitems.symm.trans hitems')
    have hsame : a.points = b.points := by
      refine row_same (fun v hv p q hp hq => ?_) ha hb
      rw [← mem_places_polygon hitems] at hv
      exact (Point.accept_agrees (h v hv)).same hp hq
    cases a
    cases b
    simp_all
  iff hexact q := by
    rw [Polygon.accept_document, Polygon.ofDocument_eq_ok (hasType_of_lookup htype _)]
    refine exists_congr fun elements => and_congr_right fun hitems => and_congr_right fun _ => ?_
    refine row_iff fun v hv p => ?_
    rw [← mem_places_polygon hitems] at hv
    exact (Point.accept_agrees (h v hv)).iff (hexact v hv) p

/-! ### All kinds -/

/-- Two ways of taking a document that agree, as ways of taking it for a value. -/
theorem Agrees.toValue {exact : Prop} {v : Verdict α} {r : Except Fault α} (h : Agrees exact v r)
    (f : α → Value) : Agrees exact (v.map f) ((r.map some).map fun a => (a.map f).getD .null) where
  same {s t} hs ht := by
    obtain ⟨a, ha, rfl⟩ := Verdict.map_eq_accepted.mp hs
    obtain ⟨o, ho, rfl⟩ := map_eq_ok.mp ht
    obtain ⟨b, hb, rfl⟩ := map_eq_ok.mp ho
    exact congrArg f (h.same ha hb)
  iff hexact s := by
    rw [Verdict.map_eq_accepted, map_eq_ok]
    constructor
    · rintro ⟨a, ha, rfl⟩
      exact ⟨some a, map_eq_ok.mpr ⟨a, (h.iff hexact a).mp ha, rfl⟩, rfl⟩
    · rintro ⟨o, ho, rfl⟩
      obtain ⟨a, ha, rfl⟩ := map_eq_ok.mp ho
      exact ⟨a, (h.iff hexact a).mpr ha, rfl⟩

theorem Agrees.map {β : Type} {exact : Prop} {v : Verdict α} {r : Except Fault α}
    (h : Agrees exact v r) (f : α → β) : Agrees exact (v.map f) (r.map f) where
  same {s t} hs ht := by
    obtain ⟨a, ha, rfl⟩ := Verdict.map_eq_accepted.mp hs
    obtain ⟨b, hb, rfl⟩ := map_eq_ok.mp ht
    rw [h.same ha hb]
  iff hexact s := by
    rw [Verdict.map_eq_accepted, map_eq_ok]
    simp only [h.iff hexact]

theorem Agrees.mono {exact' exact : Prop} {v : Verdict α} {r : Except Fault α}
    (h : Agrees exact v r) (himp : exact' → exact) : Agrees exact' v r where
  same := h.same
  iff hexact := h.iff (himp hexact)

/-- Circles and spheres are taken alike, whichever class is made of the center and the radius. -/
theorem CenteredShape.values_agree (kind : String) (hradius : BareRadius fields)
    (htype : (fieldOrNull fields "center").Untyped) (make : CenteredShape → α) (f : α → Value) :
    Agrees (fieldOrNull fields "center" = .null ∨ (fieldOrNull fields "center").Exact)
      (((CenteredShape.acceptFields fields).map make).map f)
      (((CenteredShape.decode kind (.document fields)).map (Option.map make)).map
        fun a => (a.map f).getD .null) := by
  have hdecode : (CenteredShape.decode kind (.document fields)).map (Option.map make) =
      ((CenteredShape.ofDocument kind fields).map make).map some := by
    rw [CenteredShape.decode]
    cases CenteredShape.ofDocument kind fields <;> rfl
  rw [hdecode]
  exact ((CenteredShape.accept_agrees kind hradius htype).map make).toValue f

/-- **Acceptance and the reader of a kind agree on an untyped document.** If both make a shape of
it, it is the same shape. If the points of the document are exact, both make the same shape of it
or neither makes any. For circles and spheres this is so where the radius is bare. -/
theorem ShapeKind.readers_agree {kind : ShapeKind} (htype : kind.Untyped fields)
    (hradius : kind ∈ ShapeKind.centered → BareRadius fields) :
    (∀ s t, kind.accept (.document fields) = .accepted s →
      kind.decode (.document fields) = .ok t → s = t) ∧
    (kind.Exact fields → ∀ s,
      kind.accept (.document fields) = .accepted s ↔ kind.decode (.document fields) = .ok s) := by
  have hagrees : Agrees (kind.Exact fields) (kind.accept (.document fields))
      (kind.decode (.document fields)) := by
    cases kind with
    | point =>
      have hpoint := Point.accept_agrees (htype.inside (.document fields) (by simp [places]))
      exact (hpoint.mono fun hexact => hexact _ (by simp [places])).toValue Value.point
    | box => exact (Box.accept_agrees (htype.here (by decide)) htype.inside).toValue Value.box
    | circle =>
      have hcircle := CenteredShape.values_agree "circle" (hradius (by decide))
        (htype.inside _ (by simp [places])) Circle.mk Value.circle
      rw [ShapeKind.decode, Circle.decode_eq]
      exact hcircle.mono fun hexact => hexact _ (by simp [places])
    | sphere =>
      have hsphere := CenteredShape.values_agree "sphere" (hradius (by decide))
        (htype.inside _ (by simp [places])) Sphere.mk Value.sphere
      rw [ShapeKind.decode, Sphere.decode_eq]
      exact hsphere.mono fun hexact => hexact _ (by simp [places])
    | polygon =>
      exact (Polygon.accept_agrees (htype.here (by decide)) htype.inside).toValue Value.polygon
  exact ⟨fun s t => hagrees.same, hagrees.iff⟩

/-- A circle with a center of exactly two fields, of which both make the same. -/
theorem ShapeKind.readers_agree_circle :
    let fields : Document := [("center", .document [("x", .float 1.5), ("y", .float 2.5)]),
      ("radius", .float 3.0), ("metric", .text "NEUTRAL")]
    let circle : Value := .circle ⟨⟨⟨1.5, 2.5⟩, ⟨3.0, .neutral⟩⟩⟩
    ShapeKind.circle.Untyped fields ∧ BareRadius fields ∧ ShapeKind.circle.Exact fields ∧
      ShapeKind.circle.accept (.document fields) = .accepted circle ∧
      ShapeKind.circle.decode (.document fields) = .ok circle := by
  intro fields circle
  have hcenter : fieldOrNull fields "center" = .document [("x", .float 1.5), ("y", .float 2.5)] := rfl
  have huntyped : ShapeKind.circle.Untyped fields := by
    refine ⟨fun hnot => absurd (by decide) hnot, fun v hv => ?_⟩
    obtain rfl := List.mem_singleton.mp hv
    intro inner hinner
    obtain rfl := Value.document.inj (hcenter.symm.trans hinner)
    rfl
  have hbare : BareRadius fields := by
    refine ⟨nofun, nofun, fun v hv => ?_⟩
    obtain rfl := Option.some.inj hv
    rfl
  have hexact : ShapeKind.circle.Exact fields := by
    intro v hv
    obtain rfl := List.mem_singleton.mp hv
    exact Or.inr ⟨_, .float 1.5, .float 2.5, hcenter, rfl, rfl, rfl⟩
  have hradius : Distance.acceptRadius (.float 3.0) = .accepted ⟨3.0, .neutral⟩ := by
    have hpositive : ¬ (3.0 : Float) < 0 := by decide +kernel
    show Distance.asRadius ⟨3.0, .neutral⟩ = _
    exact Distance.asRadius_of_not_lt hpositive
  have haccept : ShapeKind.circle.accept (.document fields) = .accepted circle := by
    have hfields : CenteredShape.acceptFields fields = .accepted ⟨⟨1.5, 2.5⟩, ⟨3.0, .neutral⟩⟩ :=
      CenteredShape.acceptFields_iff.mpr ⟨rfl, hradius⟩
    rw [ShapeKind.accept, Circle.accept, hfields]
    rfl
  exact ⟨huntyped, hbare, hexact, haccept,
    ((ShapeKind.readers_agree huntyped fun _ => hbare).2 hexact circle).mp haccept⟩

end ShapeCodec
