/-
# The fields a reader names

A reader asks a document for the fields it names and for nothing else. So a stored document may be
given its fields in another order, and fields may be added to it, exchanged in it or taken out of it
that the reader does not name: what is read stays the same, to the very fault. A box or a polygon is
handed as a whole to the reader of GeoJSON if its type says so, which names the type and the
coordinates and no more.

Only the reader of points counts fields. A document of type `Point` it reads as the others read
theirs. Any other document must have exactly two fields, in whatever order, and with a third it is
no point. The exception is a third field that makes it a document of type `Point`, since then it is
read by its coordinates.

Key definitions: `Edit`, `Edited`, `Agree`, `DependsOn`, `LooksAt`.
Key theorems: `lookup_perm`, `Edit.agree`, `Edited.agree`, `Box.dependsOn`, `Polygon.dependsOn`,
`decodeGeoJson_dependsOn`, `decode_namedFields`.
-/
import ShapeCodec.Proofs.Json.Plain
import ShapeCodec.Proofs.Shape.Rows
import ShapeCodec.Value.Path

namespace ShapeCodec

variable {fields other : Document} {name : String} {names : List String} {v : Value}

/-! ### Fields in a document -/

/-- Where each name stands once, a field that stands there is the one of its name. -/
theorem lookup_eq_some_iff_mem : ∀ {fields : Document}, (fields.map Prod.fst).Nodup →
    (fields.lookup name = some v ↔ (name, v) ∈ fields)
  | [], _ => by simp
  | (k, w) :: rest, h => by
    rw [List.map_cons, List.nodup_cons] at h
    obtain ⟨hfresh, hrest⟩ := h
    by_cases hk : name = k
    · subst hk
      have hother : (name, v) ∉ rest := fun hmem => hfresh (List.mem_map.mpr ⟨_, hmem, rfl⟩)
      simp [hother, eq_comm]
    · simp [List.lookup_cons, beq_eq_false_iff_ne.mpr hk, hk, lookup_eq_some_iff_mem hrest]

theorem lookup_perm (hnames : (fields.map Prod.fst).Nodup) (h : fields.Perm other)
    (name : String) : other.lookup name = fields.lookup name := by
  have hnames' : (other.map Prod.fst).Nodup := (h.map Prod.fst).nodup_iff.mp hnames
  apply Option.ext
  intro v
  rw [lookup_eq_some_iff_mem hnames', lookup_eq_some_iff_mem hnames]
  exact h.mem_iff.symm

theorem lookup_removeField_of_ne {removed : String} (h : name ≠ removed) :
    ∀ fields : Document, (removeField removed fields).lookup name = fields.lookup name
  | [] => rfl
  | (k, w) :: rest => by
    have ih := lookup_removeField_of_ne h rest
    unfold removeField at ih ⊢
    by_cases hk : k = removed
    · subst hk
      simpa [List.lookup_cons, beq_eq_false_iff_ne.mpr h] using ih
    · simp [hk, List.lookup_cons, ih]

/-! ### Edits -/

/-- One change of a document: its fields in another order, or a field added, exchanged or removed
that has none of the given names. -/
inductive Edit (names : List String) (fields : Document) : Document → Prop
  | reorder {other : Document} (h : fields.Perm other) : Edit names fields other
  | put {name : String} (v : Value) (h : name ∉ names) : Edit names fields (putField name v fields)
  | remove {name : String} (h : name ∉ names) : Edit names fields (removeField name fields)

/-- A document after any number of such changes. -/
def Edited (names : List String) : Document → Document → Prop := Relation.ReflTransGen (Edit names)

/-- Documents with the same fields of the given names. -/
def Agree (names : List String) (fields other : Document) : Prop :=
  ∀ name ∈ names, other.lookup name = fields.lookup name

theorem Edit.nodup (h : Edit names fields other) (hnames : (fields.map Prod.fst).Nodup) :
    (other.map Prod.fst).Nodup := by
  cases h with
  | reorder hperm => exact (hperm.map Prod.fst).nodup_iff.mp hnames
  | put v hname => exact Json.putField_names _ v hnames
  | remove hname => exact hnames.sublist (List.filter_sublist.map Prod.fst)

/-- A change leaves the fields of the given names as they are. -/
theorem Edit.agree (h : Edit names fields other) (hnames : (fields.map Prod.fst).Nodup) :
    Agree names fields other := by
  intro name hname
  cases h with
  | reorder hperm => exact lookup_perm hnames hperm name
  | put v hput => exact lookup_putField_of_ne (ne_of_mem_of_not_mem hname hput) v fields
  | remove hremove => exact lookup_removeField_of_ne (ne_of_mem_of_not_mem hname hremove) fields

/-- **Any number of changes leaves the fields of the given names as they are.** -/
theorem Edited.agree (h : Edited names fields other) (hnames : (fields.map Prod.fst).Nodup) :
    (other.map Prod.fst).Nodup ∧ Agree names fields other := by
  induction h with
  | refl => exact ⟨hnames, fun _ _ => rfl⟩
  | tail _ hlast ih =>
    obtain ⟨hbefore, hagree⟩ := ih
    exact ⟨hlast.nodup hbefore,
      fun name hname => (hlast.agree hbefore name hname).trans (hagree name hname)⟩

/-! ### What readers depend on -/

section
variable {α : Type} {read : Value → Except Fault α}

/-- A reader of which the outcome depends on the fields of the given names only. -/
def DependsOn (names : List String) (read : Value → Except Fault α) : Prop :=
  ∀ fields other, Agree names fields other → read (.document other) = read (.document fields)

/-- A reader looks at no other fields of a document than those of the given names: its outcome
stays the same through all changes. -/
def LooksAt (names : List String) (read : Value → Except Fault α) (fields : Document) : Prop :=
  ∀ other, Edited names fields other → read (.document other) = read (.document fields)

theorem DependsOn.looksAt (h : DependsOn names read) (hnames : (fields.map Prod.fst).Nodup) :
    LooksAt names read fields :=
  fun other hedited => h fields other (hedited.agree hnames).2

end

theorem hasType_congr (h : other.lookup "type" = fields.lookup "type") (type : String) :
    hasType other type = hasType fields type := by
  rw [hasType, hasType, h]

theorem Point.ofGeoJson_congr (h : other.lookup "coordinates" = fields.lookup "coordinates") :
    Point.ofGeoJson other = Point.ofGeoJson fields := by
  rw [Point.ofGeoJson, Point.ofGeoJson, coordinateItems?_congr h]

theorem pointField_congr (h : other.lookup name = fields.lookup name) :
    pointField other name = pointField fields name := by
  rw [pointField, pointField, h]

theorem Box.dependsOn : DependsOn ["type", "coordinates", "first", "second"] Box.decode := by
  intro fields other h
  have htype := hasType_congr (h "type" (by decide)) "Polygon"
  have hring := Polygon.ofGeoJson_congr (h "coordinates" (by decide))
  have hfirst := pointField_congr (h "first" (by decide))
  have hsecond := pointField_congr (h "second" (by decide))
  rw [Box.decode, Box.decode, Box.ofDocument, Box.ofDocument, htype, hring, hfirst, hsecond]

theorem Polygon.dependsOn : DependsOn ["type", "coordinates", "points"] Polygon.decode := by
  intro fields other h
  have htype := hasType_congr (h "type" (by decide)) "Polygon"
  have hring := Polygon.ofGeoJson_congr (h "coordinates" (by decide))
  have hpoints : Polygon.ofPointsField other = Polygon.ofPointsField fields := by
    rw [Polygon.ofPointsField, Polygon.ofPointsField, h "points" (by decide)]
  rw [Polygon.decode, Polygon.decode, Polygon.ofDocument, Polygon.ofDocument, htype, hring, hpoints]

theorem decodeGeoJson_dependsOn : DependsOn ["type", "coordinates"] decodeGeoJson := by
  intro fields other h
  have hpoint := Point.ofGeoJson_congr (h "coordinates" (by decide))
  have hring := Polygon.ofGeoJson_congr (h "coordinates" (by decide))
  have hgeometry : ∀ type, Geometry.ofType type other = Geometry.ofType type fields := by
    intro type
    rw [Geometry.ofType, Geometry.ofType, hpoint, hring]
  have hfields : Geometry.ofFields other = Geometry.ofFields fields := by
    simp only [Geometry.ofFields, h "type" (by decide), hgeometry]
  rw [decodeGeoJson, decodeGeoJson, Geometry.decode, Geometry.decode, hfields]

theorem requiredField_congr (h : other.lookup name = fields.lookup name) (part : String) :
    requiredField other name part = requiredField fields name part := by
  rw [requiredField, requiredField, h]

theorem CenteredShape.ofDocument_congr (kind : String)
    (h : Agree ["center", "radius", "metric"] fields other) :
    CenteredShape.ofDocument kind other = CenteredShape.ofDocument kind fields := by
  have hcenter := requiredField_congr (h "center" (by decide)) "Center"
  have hradius := requiredField_congr (h "radius" (by decide)) "Radius"
  have hmetric : radiusInMetric other = radiusInMetric fields := by
    funext radius
    rw [radiusInMetric, radiusInMetric, h "metric" (by decide)]
  rw [CenteredShape.ofDocument, CenteredShape.ofDocument, hcenter, hradius, hmetric]

theorem Circle.dependsOn : DependsOn ["center", "radius", "metric"] Circle.decode := by
  intro fields other h
  rw [Circle.decode, Circle.decode, CenteredShape.ofDocument_congr _ h]

theorem Sphere.dependsOn : DependsOn ["center", "radius", "metric"] Sphere.decode := by
  intro fields other h
  rw [Sphere.decode, Sphere.decode, CenteredShape.ofDocument_congr _ h]

/-! ### Points -/

/-- A document of type `Point` is read by its type and its coordinates. -/
theorem Point.decode_agree (htype : OfType fields "Point")
    (h : Agree ["type", "coordinates"] fields other) :
    Point.decode (.document other) = Point.decode (.document fields) := by
  have hfields : hasType fields "Point" = true := (hasType_iff begins_point).mpr htype
  have hother : hasType other "Point" = true :=
    (hasType_congr (h "type" (by decide)) "Point").trans hfields
  rw [Point.decode_document, Point.decode_document, Point.ofDocument, Point.ofDocument,
    if_pos hother, if_pos hfields, Point.ofGeoJson_congr (h "coordinates" (by decide))]

theorem Point.decode_perm (hnames : (fields.map Prod.fst).Nodup) (h : fields.Perm other) :
    Point.decode (.document other) = Point.decode (.document fields) := by
  have hlookup := lookup_perm hnames h
  have hfields : Point.ofFields other = Point.ofFields fields := by
    simp only [Point.ofFields, hlookup, h.length_eq]
  rw [Point.decode_document, Point.decode_document, Point.ofDocument, Point.ofDocument,
    hasType_congr (hlookup "type"), Point.ofGeoJson_congr (hlookup "coordinates"), hfields]

/-- A document that is neither of type `Point` nor of two fields is no point. -/
theorem Point.decode_notTwoFields (htype : ¬ OfType fields "Point") (hlength : fields.length ≠ 2) :
    Point.decode (.document fields) = .error (.malformedShape .notTwoFields) := by
  have hfields : ¬ hasType fields "Point" = true := mt (hasType_iff begins_point).mp htype
  rw [Point.decode_document, Point.ofDocument, if_neg hfields, Point.ofFields, if_pos hlength]
  rfl

theorem Point.length_of_decode {p : Point} (htype : ¬ OfType fields "Point")
    (h : Point.decode (.document fields) = .ok (some p)) : fields.length = 2 := by
  by_contra hlength
  cases h.symm.trans (Point.decode_notTwoFields htype hlength)

theorem ofType_putField (htype : ¬ OfType fields "Point")
    (hfield : ¬ (name = "type" ∧ v = .text "Point")) :
    ¬ OfType (putField name v fields) "Point" := by
  unfold OfType at htype ⊢
  by_cases hname : name = "type"
  · subst hname
    rw [lookup_putField_self, Option.some.injEq]
    exact fun hv => hfield ⟨rfl, hv⟩
  · rwa [lookup_putField_of_ne (Ne.symm hname)]

/-- A third field anywhere in a document that was read by its two fields. -/
theorem Point.decode_third {p : Point} (hnames : (fields.map Prod.fst).Nodup)
    (htype : ¬ OfType fields "Point") (hread : Point.decode (.document fields) = .ok (some p))
    (hnew : name ∉ fields.map Prod.fst) (hfield : ¬ (name = "type" ∧ v = .text "Point"))
    (hother : (putField name v fields).Perm other) :
    Point.decode (.document other) = .error (.malformedShape .notTwoFields) := by
  have hlength : (putField name v fields).length = 3 := by
    rw [Json.putField_append v hnew, List.length_append, Point.length_of_decode htype hread,
      List.length_singleton]
  rw [Point.decode_perm (Json.putField_names name v hnames) hother]
  exact Point.decode_notTwoFields (ofType_putField htype hfield) (by rw [hlength]; decide)

/-! ### All readers -/

/-- **Readers look at the fields they name and at no others.** The outcome, a shape or the very
fault, is the same for a document with its fields in another order and with other fields added,
exchanged or removed. The reader of points does not mind the order either, and of a document of type
`Point` it looks at the type and the coordinates alone. But a document that it read as `x` and `y`
is no point any more with a third field, whichever that is and wherever it stands, unless it is the
type `Point`. -/
theorem decode_namedFields {fields : Document} (hnames : (fields.map Prod.fst).Nodup) :
    LooksAt ["type", "coordinates", "first", "second"] Box.decode fields ∧
    LooksAt ["type", "coordinates", "points"] Polygon.decode fields ∧
    LooksAt ["type", "coordinates"] decodeGeoJson fields ∧
    LooksAt ["center", "radius", "metric"] Circle.decode fields ∧
    LooksAt ["center", "radius", "metric"] Sphere.decode fields ∧
    (∀ other, fields.Perm other →
      Point.decode (.document other) = Point.decode (.document fields)) ∧
    (OfType fields "Point" → LooksAt ["type", "coordinates"] Point.decode fields) ∧
    (¬ OfType fields "Point" → ∀ p, Point.decode (.document fields) = .ok (some p) →
      ∀ name v other, name ∉ fields.map Prod.fst → ¬ (name = "type" ∧ v = .text "Point") →
        (putField name v fields).Perm other →
        Point.decode (.document other) = .error (.malformedShape .notTwoFields)) := by
  refine ⟨Box.dependsOn.looksAt hnames, Polygon.dependsOn.looksAt hnames,
    decodeGeoJson_dependsOn.looksAt hnames, Circle.dependsOn.looksAt hnames,
    Sphere.dependsOn.looksAt hnames, fun other hperm => Point.decode_perm hnames hperm, ?_, ?_⟩
  · intro htype other hedited
    exact Point.decode_agree htype (hedited.agree hnames).2
  · intro htype p hread name v other hnew hfield hother
    exact Point.decode_third hnames htype hread hnew hfield hother

/-- A point in GeoJSON is read out of a document that was given an `_id` and another order. The
same point by its two fields is not. -/
theorem decode_namedFields_id :
    let p : Point := ⟨1.0, -0.0⟩
    let id : Value := .text "5f0c"
    let typed : Document := geoJsonDocument "Point" p.pair
    let stored : Document := [("_id", id), ("coordinates", p.pair), ("type", .text "Point")]
    (typed.map Prod.fst).Nodup ∧ Edited ["type", "coordinates"] typed stored ∧
      Point.decode (.document stored) = .ok (some p) ∧
      decodeGeoJson (.document stored) = .ok (.geoJson (.point p)) ∧
      (p.encode.map Prod.fst).Nodup ∧
      Point.decode (.document (("_id", id) :: p.encode))
        = .error (.malformedShape .notTwoFields) := by
  intro p id typed stored
  have hnames : (typed.map Prod.fst).Nodup := by decide
  have hnames' : (p.encode.map Prod.fst).Nodup := by decide
  have hput : Edit ["type", "coordinates"] typed (putField "_id" id typed) := .put id (by decide)
  have hperm : (putField "_id" id typed).Perm stored := List.reverse_perm stored
  have hedited : Edited ["type", "coordinates"] typed stored :=
    (Relation.ReflTransGen.single hput).tail (.reorder hperm)
  have huntyped : ¬ OfType p.encode "Point" := nofun
  obtain ⟨-, -, hgeoJson, -, -, -, hpoint, -⟩ := decode_namedFields hnames
  obtain ⟨-, -, -, -, -, -, -, hthird⟩ := decode_namedFields hnames'
  have hlast : (putField "_id" id p.encode).Perm (("_id", id) :: p.encode) :=
    List.perm_append_singleton ("_id", id) p.encode
  exact ⟨hnames, hedited, hpoint rfl stored hedited, hgeoJson stored hedited, hnames',
    hthird huntyped p rfl "_id" id _ (by decide) (by simp) hlast⟩

end ShapeCodec
