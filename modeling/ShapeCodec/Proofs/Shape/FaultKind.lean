/-
# Which fault a reader fails with

A caller tells faults apart by their kind: a malformed shape is a fault of stored data, an
unusable argument one of a GeoJSON value, and an unknown metric is neither. Of which kind a fault
is depends on the reader that met it first, and the readers call each other: the reader of points
hands documents of type `Point` on to the reader of GeoJSON, that one hands the elements of a ring
back, and a box, a polygon or a circle reads its points by the first of them. What a reader is not
meant to fail with is of no kind: an overflow, and a whole number that has too many digits to be
shown.

So a reader of points fails with an unusable argument exactly on documents of type `Point`, and
the reader of GeoJSON with a malformed shape exactly where the first ring of a polygon holds what
is no point. The other readers fail with an unusable argument only where they came upon GeoJSON.
A metric that is not known is the fault of circles and spheres alone, and is met where the center
is given and the radius is a number, before the center is read; if the metric cannot be shown in
the message, the fault of the first thing in it that is not shown takes the place of it.

Key definitions: `DocumentOfType`, `BrokenRing`, `Fault.ByArgument`, `Fault.WithinArgument`,
`MetricMissed`.
Key theorems: `Point.ofValue_faults`, `readPoints_faults`, `Geometry.decode_faults`,
`CenteredShape.ofDocument_missed`, `readers_fault_kind`.
-/
import Mathlib
import ShapeCodec.Proofs.GeoJson.TypeText
import ShapeCodec.Proofs.Shape.Denotation

namespace ShapeCodec

variable {α β : Type}

/-! ### Kinds of faults -/

/-- A fault that is an unusable argument under a condition, and a malformed shape otherwise, if it
is one that readers are meant to fail with. -/
def Fault.ByArgument (argument : Prop) (f : Fault) : Prop :=
  ¬ f.IsConversion ∨ (argument ∧ f.IsUnusableArgument) ∨ (¬ argument ∧ f.IsMalformedShape)

/-- A fault that is a malformed shape or, under a condition, an unusable argument, if it is one that
readers are meant to fail with. -/
def Fault.WithinArgument (argument : Prop) (f : Fault) : Prop :=
  ¬ f.IsConversion ∨ f.IsMalformedShape ∨ (argument ∧ f.IsUnusableArgument)

theorem Fault.not_both {f : Fault} (hshape : f.IsMalformedShape) : ¬ f.IsUnusableArgument := by
  intro hargument
  cases f with
  | malformedShape cause => exact hargument
  | _ => exact hshape

variable {f : Fault} {A B : Prop}

theorem Fault.ByArgument.kinds (h : f.ByArgument A) (hf : f.IsConversion) :
    (f.IsUnusableArgument ↔ A) ∧ (f.IsMalformedShape ↔ ¬ A) := by
  rcases h with hother | ⟨ha, hargument⟩ | ⟨ha, hshape⟩
  · exact absurd hf hother
  · have hshape : ¬ f.IsMalformedShape := fun hshape => Fault.not_both hshape hargument
    exact ⟨iff_of_true hargument ha, iff_of_false hshape (not_not_intro ha)⟩
  · exact ⟨iff_of_false (Fault.not_both hshape) ha, iff_of_true hshape ha⟩

theorem Fault.ByArgument.congr (h : f.ByArgument A) (hAB : A ↔ B) : f.ByArgument B := by
  rwa [Fault.ByArgument, ← hAB]

theorem Fault.ByArgument.within (h : f.ByArgument A) : f.WithinArgument A := by
  rcases h with hother | hargument | ⟨-, hshape⟩
  · exact Or.inl hother
  · exact Or.inr (Or.inr hargument)
  · exact Or.inr (Or.inl hshape)

theorem Fault.WithinArgument.mono (h : f.WithinArgument A) (hAB : A → B) : f.WithinArgument B := by
  rcases h with hother | hshape | ⟨ha, hargument⟩
  · exact Or.inl hother
  · exact Or.inr (Or.inl hshape)
  · exact Or.inr (Or.inr ⟨hAB ha, hargument⟩)

/-- A fault of stored data, whatever the condition. -/
theorem Fault.ByArgument.shape (h : f.ByArgument False) (A : Prop) : f.WithinArgument A :=
  h.within.mono False.elim

theorem Verdict.orMalformed_faults (subject : String) (v : Verdict α) :
    FailsOnly (v.orMalformed subject) (Fault.ByArgument False) := by
  cases v with
  | accepted a => exact FailsOnly.ok a
  | refused complaints => exact FailsOnly.error (Or.inr (Or.inr ⟨id, trivial⟩))
  | overflow => exact FailsOnly.error (Or.inl id)

theorem Verdict.orUnusable_faults (subject : String) (v : Verdict α) :
    FailsOnly (v.orUnusable subject) (Fault.ByArgument True) := by
  cases v with
  | accepted a => exact FailsOnly.ok a
  | refused complaints => exact FailsOnly.error (Or.inr (Or.inl ⟨trivial, trivial⟩))
  | overflow => exact FailsOnly.error (Or.inl id)

theorem FailsOnly.malformed {cause : ShapeFault} :
    FailsOnly (.error (.malformedShape cause) : Except Fault α) (Fault.ByArgument False) :=
  FailsOnly.error (Or.inr (Or.inr ⟨id, trivial⟩))

theorem FailsOnly.unusable {cause : ArgumentFault} :
    FailsOnly (.error (.unusableArgument cause) : Except Fault α) (Fault.ByArgument True) :=
  FailsOnly.error (Or.inr (Or.inl ⟨trivial, trivial⟩))

/-! ### Points -/

/-- A document whose type is the given text. -/
def DocumentOfType (type : String) (v : Value) : Prop :=
  ∃ fields, v = .document fields ∧ OfType fields type

theorem Point.ofPair_faults (v : Value) : FailsOnly (Point.ofPair v) (Fault.ByArgument False) := by
  unfold Point.ofPair
  split
  · exact Verdict.orMalformed_faults _ _
  · exact FailsOnly.malformed

theorem Point.ofFields_faults (fields : Document) :
    FailsOnly (Point.ofFields fields) (Fault.ByArgument False) := by
  unfold Point.ofFields
  split
  · exact FailsOnly.malformed
  · split
    · exact Verdict.orMalformed_faults _ _
    · exact FailsOnly.malformed

theorem Point.ofGeoJson_faults (fields : Document) :
    FailsOnly (Point.ofGeoJson fields) (Fault.ByArgument True) := by
  unfold Point.ofGeoJson
  split
  · exact Verdict.orUnusable_faults _ _
  · exact FailsOnly.unusable

theorem Point.ofDocument_faults (fields : Document) :
    FailsOnly (Point.ofDocument fields) (Fault.ByArgument (OfType fields "Point")) := by
  unfold Point.ofDocument
  by_cases htype : OfType fields "Point"
  · rw [if_pos ((hasType_iff begins_point).mpr htype)]
    exact (Point.ofGeoJson_faults fields).mono fun f hf => hf.congr (iff_of_true trivial htype)
  · rw [if_neg (fun h => htype ((hasType_iff begins_point).mp h))]
    exact (Point.ofFields_faults fields).mono fun f hf => hf.congr (iff_of_false id htype)

/-- **A point fails to be read with an unusable argument exactly from a document of type
`Point`.** -/
theorem Point.ofValue_faults (v : Value) :
    FailsOnly (Point.ofValue v) (Fault.ByArgument (DocumentOfType "Point" v)) := by
  unfold Point.ofValue
  split
  · next items hitems =>
    have htype : ¬ DocumentOfType "Point" v := by
      rintro ⟨fields, rfl, -⟩
      cases hitems
    exact (Point.ofPair_faults v).mono fun f hf => hf.congr (iff_of_false id htype)
  · split
    · next fields _ =>
      have htype : OfType fields "Point" ↔ DocumentOfType "Point" (.document fields) := by
        simp [DocumentOfType]
      exact (Point.ofDocument_faults fields).mono fun f hf => hf.congr htype
    · next hdocument =>
      have htype : ¬ DocumentOfType "Point" v := by
        rintro ⟨fields, hv, -⟩
        exact hdocument fields hv
      exact FailsOnly.malformed.mono fun f hf => hf.congr (iff_of_false id htype)

theorem Point.ofElement_faults (v : Value) :
    FailsOnly (Point.ofElement v) (Fault.ByArgument (DocumentOfType "Point" v)) := by
  unfold Point.ofElement
  split
  · have htype : ¬ DocumentOfType "Point" .null := by
      rintro ⟨fields, ⟨⟩, -⟩
    exact FailsOnly.malformed.mono fun f hf => hf.congr (iff_of_false id htype)
  · exact Point.ofValue_faults v

theorem Point.decode_faults (v : Value) :
    FailsOnly (Point.decode v) (Fault.ByArgument (DocumentOfType "Point" v)) := by
  unfold Point.decode
  split
  · exact FailsOnly.ok none
  · exact (Point.ofValue_faults v).map some

/-! ### Rows of points -/

theorem readPoints_faults (elements : List Value) : FailsOnly (readPoints elements)
    (Fault.WithinArgument (∃ v ∈ elements, DocumentOfType "Point" v)) := by
  rw [readPoints_eq_mapM]
  apply FailsOnly.mapM
  intro v hv
  have htyped : DocumentOfType "Point" v → ∃ u ∈ elements, DocumentOfType "Point" u :=
    fun htype => ⟨v, hv, htype⟩
  exact (Point.ofElement_faults v).mono fun f hf => hf.within.mono htyped

theorem Point.ofRingElement_faults (v : Value) :
    FailsOnly (Point.ofRingElement v) (Fault.ByArgument False) := by
  unfold Point.ofRingElement
  split
  · exact FailsOnly.malformed
  · exact Point.ofFields_faults _
  · exact Point.ofPair_faults v

/-- The elements of a ring are no GeoJSON, so that a ring is never an unusable argument. -/
theorem readRing_faults (elements : List Value) :
    FailsOnly (readRing elements) (Fault.ByArgument False) := by
  rw [readRing_eq_mapM]
  exact FailsOnly.mapM fun v _ => Point.ofRingElement_faults v

/-! ### GeoJSON -/

/-- The first ring of a document holds what is no point of a ring, null among it. -/
def HoldsNoPoint (fields : Document) : Prop :=
  ∃ elements v, FirstRing fields elements ∧ v ∈ elements ∧ ¬ FitsAt (RingCoordinates v)

/-- A GeoJSON document of a polygon whose first ring holds what is no point. -/
def BrokenRing (v : Value) : Prop :=
  ∃ fields, v = .document fields ∧ OfType fields "Polygon" ∧ HoldsNoPoint fields

section
variable {fields : Document} {elements : List Value}

theorem FirstRing.holdsNoPoint_iff (hring : FirstRing fields elements) :
    HoldsNoPoint fields ↔ ∃ v ∈ elements, ¬ FitsAt (RingCoordinates v) := by
  constructor
  · rintro ⟨others, v, hring', hv, hno⟩
    exact ⟨v, firstRing_unique hring' hring ▸ hv, hno⟩
  · rintro ⟨v, hv, hno⟩
    exact ⟨elements, v, hring, hv, hno⟩

/-- The first ring is read exactly if it holds nothing but points. -/
theorem FirstRing.isOk_iff (hring : FirstRing fields elements) :
    (∃ points, readRing elements = .ok points) ↔ ¬ HoldsNoPoint fields := by
  rw [(readRing_reads elements).ok_iff, hring.holdsNoPoint_iff]
  push Not
  rfl

end

theorem Polygon.ofGeoJson_faults (fields : Document) :
    FailsOnly (Polygon.ofGeoJson fields) (Fault.ByArgument (¬ HoldsNoPoint fields)) := by
  by_cases hring : ∃ elements, FirstRing fields elements
  · obtain ⟨elements, hring⟩ := hring
    rw [Polygon.ofGeoJson_ofRing hring]
    cases hpoints : readRing elements with
    | error e =>
      have hbroken : ¬ ¬ HoldsNoPoint fields := by
        rw [← hring.isOk_iff, hpoints]
        simp
      have he : e.ByArgument False := readRing_faults elements e hpoints
      exact FailsOnly.error (he.congr (iff_of_false id hbroken))
    | ok points =>
      have hwhole : ¬ HoldsNoPoint fields := hring.isOk_iff.mp ⟨points, hpoints⟩
      refine (Verdict.orUnusable_faults "GeoJson polygon" (Polygon.ofPoints points)).mono ?_
      exact fun f hf => hf.congr (iff_of_true trivial hwhole)
  · have hwhole : ¬ HoldsNoPoint fields := by
      rintro ⟨elements, v, hring', -⟩
      exact hring ⟨elements, hring'⟩
    obtain ⟨cause, hfault⟩ := Polygon.ofGeoJson_noRing (not_exists.mp hring)
    rw [hfault]
    exact FailsOnly.unusable.mono fun f hf => hf.congr (iff_of_true trivial hwhole)

/-- What fails before the points of a polygon are read is an unusable argument. -/
theorem FailsOnly.notBroken {r : Except Fault α} {v : Value} (hv : ¬ BrokenRing v)
    (h : FailsOnly r (Fault.ByArgument True)) : FailsOnly r (Fault.ByArgument (¬ BrokenRing v)) :=
  h.mono fun _ hf => hf.congr (iff_of_true trivial hv)

theorem Geometry.ofType_faults (type : String) (fields : Document) :
    FailsOnly (Geometry.ofType type fields)
      (Fault.ByArgument (¬ (type = "Polygon" ∧ HoldsNoPoint fields))) := by
  unfold Geometry.ofType
  by_cases hpoint : type = "Point"
  · have hnot : ¬ (type = "Polygon" ∧ HoldsNoPoint fields) := by
      rw [hpoint]
      simp
    rw [if_pos hpoint]
    exact ((Point.ofGeoJson_faults fields).map _).mono fun f hf => hf.congr (iff_of_true trivial hnot)
  · rw [if_neg hpoint]
    by_cases hpolygon : type = "Polygon"
    · rw [if_pos hpolygon]
      refine ((Polygon.ofGeoJson_faults fields).map _).mono fun f hf => hf.congr ?_
      rw [and_iff_right hpolygon]
    · have hnot : ¬ (type = "Polygon" ∧ HoldsNoPoint fields) := fun h => hpolygon h.1
      rw [if_neg hpolygon]
      exact FailsOnly.unusable.mono fun f hf => hf.congr (iff_of_true trivial hnot)

theorem Geometry.ofFields_faults (fields : Document) : FailsOnly (Geometry.ofFields fields)
    (Fault.ByArgument (¬ BrokenRing (.document fields))) := by
  have hbroken : BrokenRing (.document fields) ↔ OfType fields "Polygon" ∧ HoldsNoPoint fields := by
    simp [BrokenRing]
  cases hlookup : fields.lookup "type" with
  | none =>
    have hnot : ¬ BrokenRing (.document fields) := by
      rw [hbroken, OfType, hlookup]
      simp
    rw [Geometry.ofFields, hlookup]
    exact FailsOnly.unusable.notBroken hnot
  | some type =>
    have hread : Geometry.ofFields fields = type.display >>= fun name =>
        Geometry.ofType name fields := by
      rw [Geometry.ofFields, hlookup]
    have htype : OfType fields "Polygon" ↔ type.display = .ok "Polygon" := by
      rw [Value.display_eq_ok_iff begins_polygon, OfType, hlookup, Option.some.injEq]
    rw [hread]
    cases hname : type.display with
    | error e =>
      have hnot : ¬ BrokenRing (.document fields) := by
        rw [hbroken, htype, hname]
        simp
      -- either the type is too long to be shown, or a wrapper in it has no type of its own
      rcases ((type.display_shows.error_iff e).mp hname).fault with rfl | he
      · exact FailsOnly.error (Or.inl id)
      · exact FailsOnly.error (Or.inr (Or.inl ⟨hnot, he⟩))
    | ok name =>
      rw [hname, Except.ok.injEq] at htype
      rw [hbroken, htype]
      exact Geometry.ofType_faults name fields

/-- **A GeoJSON document fails to be read with a malformed shape exactly where its first ring
holds what is no point.** -/
theorem Geometry.decode_faults (v : Value) :
    FailsOnly (Geometry.decode v) (Fault.ByArgument (¬ BrokenRing v)) := by
  unfold Geometry.decode
  split
  · exact FailsOnly.ok none
  · exact (Geometry.ofFields_faults _).map some
  · next hdocument =>
    have hbroken : ¬ BrokenRing v := by
      rintro ⟨fields, hv, -⟩
      exact hdocument fields hv
    exact FailsOnly.unusable.notBroken hbroken

theorem decodeGeoJson_faults (v : Value) :
    FailsOnly (decodeGeoJson v) (Fault.ByArgument (¬ BrokenRing v)) :=
  (Geometry.decode_faults v).map _

/-! ### Boxes and polygons -/

/-- A box for which GeoJSON is read: a document of type `Polygon`, or one with a corner of type
`Point`. -/
def Box.MeetsGeoJson (v : Value) : Prop :=
  ∃ fields, v = .document fields ∧ (OfType fields "Polygon" ∨
    ∃ name ∈ ["first", "second"], DocumentOfType "Point" (fieldOrNull fields name))

/-- A polygon for which GeoJSON is read: a document of type `Polygon`, or one with a point of type
`Point` in its row. -/
def Polygon.MeetsGeoJson (v : Value) : Prop :=
  ∃ fields, v = .document fields ∧ (OfType fields "Polygon" ∨
    ∃ elements, (fieldOrNull fields "points").items? = some elements ∧
      ∃ u ∈ elements, DocumentOfType "Point" u)

/-- The ring of a polygon fails to be read as either kind of fault. -/
theorem Polygon.ofGeoJson_within (fields : Document) (h : OfType fields "Polygon") {A : Prop} :
    FailsOnly (Polygon.ofGeoJson fields) (Fault.WithinArgument (OfType fields "Polygon" ∨ A)) :=
  (Polygon.ofGeoJson_faults fields).mono fun _ hf => hf.within.mono fun _ => Or.inl h

theorem Box.ofDocument_faults (fields : Document) : FailsOnly (Box.ofDocument fields)
    (Fault.WithinArgument (Box.MeetsGeoJson (.document fields))) := by
  have hmeets : Box.MeetsGeoJson (.document fields) ↔ OfType fields "Polygon" ∨
      ∃ name ∈ ["first", "second"], DocumentOfType "Point" (fieldOrNull fields name) := by
    simp [Box.MeetsGeoJson]
  rw [hmeets]
  unfold Box.ofDocument
  by_cases htype : OfType fields "Polygon"
  · rw [if_pos ((hasType_iff begins_polygon).mpr htype)]
    refine (Polygon.ofGeoJson_within fields htype).bind fun q _ => ?_
    unfold Box.ofRing
    split
    · exact FailsOnly.ok _
    · exact FailsOnly.malformed.mono fun f hf => hf.shape _
  · rw [if_neg fun h => htype ((hasType_iff begins_polygon).mp h)]
    have hcorner : ∀ name ∈ ["first", "second"], FailsOnly (pointField fields name)
        (Fault.WithinArgument (OfType fields "Polygon" ∨
          ∃ name ∈ ["first", "second"], DocumentOfType "Point" (fieldOrNull fields name))) := by
      intro name hname
      refine (Point.decode_faults (fieldOrNull fields name)).mono fun f hf => hf.within.mono ?_
      exact fun htyped => Or.inr ⟨name, hname, htyped⟩
    have hpresent : ∀ (part : String) (corner : Option Point), FailsOnly (present part corner)
        (Fault.WithinArgument (OfType fields "Polygon" ∨
          ∃ name ∈ ["first", "second"], DocumentOfType "Point" (fieldOrNull fields name))) := by
      intro part corner
      cases corner with
      | none => exact FailsOnly.malformed.mono fun f hf => hf.shape _
      | some p => exact FailsOnly.ok p
    refine (hcorner "first" (by simp)).bind fun first _ => ?_
    refine (hcorner "second" (by simp)).bind fun second _ => ?_
    refine (hpresent _ first).bind fun first _ => ?_
    exact (hpresent _ second).bind fun second _ => FailsOnly.ok _

theorem Box.decode_faults (v : Value) :
    FailsOnly (Box.decode v) (Fault.WithinArgument (Box.MeetsGeoJson v)) := by
  unfold Box.decode
  split
  · exact FailsOnly.ok none
  · exact (Box.ofDocument_faults _).map some
  · exact FailsOnly.malformed.mono fun f hf => hf.shape _

theorem Polygon.ofPointsField_faults (fields : Document) : FailsOnly (Polygon.ofPointsField fields)
    (Fault.WithinArgument (Polygon.MeetsGeoJson (.document fields))) := by
  unfold Polygon.ofPointsField
  split
  · exact FailsOnly.malformed.mono fun f hf => hf.shape _
  · split
    · next elements hitems =>
      have hmeets : (∃ u ∈ elements, DocumentOfType "Point" u) →
          Polygon.MeetsGeoJson (.document fields) :=
        fun htyped => ⟨fields, rfl, Or.inr ⟨elements, hitems, htyped⟩⟩
      refine FailsOnly.bind ?_ fun points _ => ?_
      · exact (readPoints_faults elements).mono fun f hf => hf.mono hmeets
      · exact (Verdict.orMalformed_faults _ _).mono fun f hf => hf.shape _
    · exact FailsOnly.malformed.mono fun f hf => hf.shape _

theorem Polygon.decode_faults (v : Value) :
    FailsOnly (Polygon.decode v) (Fault.WithinArgument (Polygon.MeetsGeoJson v)) := by
  unfold Polygon.decode
  split
  · exact FailsOnly.ok none
  · next fields =>
    unfold Polygon.ofDocument
    by_cases htype : OfType fields "Polygon"
    · have hmeets : Polygon.MeetsGeoJson (.document fields) := ⟨fields, rfl, Or.inl htype⟩
      rw [if_pos ((hasType_iff begins_polygon).mpr htype)]
      refine FailsOnly.map ?_ some
      exact (Polygon.ofGeoJson_faults fields).mono fun f hf => hf.within.mono fun _ => hmeets
    · rw [if_neg fun h => htype ((hasType_iff begins_polygon).mp h)]
      exact (Polygon.ofPointsField_faults fields).map some
  · exact FailsOnly.malformed.mono fun f hf => hf.shape _

/-! ### Circles and spheres -/

/-- A circle or a sphere for which GeoJSON is read: a document with a center of type `Point`. -/
def CenteredShape.MeetsGeoJson (v : Value) : Prop :=
  ∃ fields, v = .document fields ∧ DocumentOfType "Point" (fieldOrNull fields "center")

theorem CenteredShape.ofDocument_faults (kind : String) {fields : Document}
    (h : ∀ name, ¬ MetricMissed (.document fields) name) :
    FailsOnly (CenteredShape.ofDocument kind fields)
      (Fault.WithinArgument (CenteredShape.MeetsGeoJson (.document fields))) := by
  have hrequired : ∀ name part, FailsOnly (requiredField fields name part)
      (Fault.WithinArgument (CenteredShape.MeetsGeoJson (.document fields))) := by
    intro name part
    unfold requiredField
    split
    · exact FailsOnly.malformed.mono fun f hf => hf.shape _
    · exact FailsOnly.ok _
  unfold CenteredShape.ofDocument
  refine (hrequired "center" "Center").bind fun center hcenter => ?_
  refine (hrequired "radius" "Radius").bind fun radius hradius => ?_
  obtain ⟨rfl, hcenter⟩ := requiredField_eq_ok_iff.mp hcenter
  obtain ⟨rfl, -⟩ := requiredField_eq_ok_iff.mp hradius
  refine FailsOnly.bind ?_ fun distance hdistance => ?_
  · exact (Verdict.orMalformed_faults _ _).mono fun f hf => hf.shape _
  have hfits := (Distance.ofNumber_judges _).accepted_iff.mp
    ⟨distance, Verdict.orMalformed_eq_ok.mp hdistance⟩
  refine FailsOnly.bind ?_ fun distance _ => ?_
  · unfold radiusInMetric
    split
    · exact FailsOnly.ok _
    · exact FailsOnly.malformed.mono fun f hf => hf.shape _
    · next name hnull hname =>
      obtain ⟨m, hm⟩ := metric?_of_not_missed h hcenter hfits hname hnull
      rw [Metric.resolve, hm]
      exact FailsOnly.ok _
  refine FailsOnly.bind ?_ fun center _ => ?_
  · refine (Point.ofValue_faults _).mono fun f hf => hf.within.mono ?_
    exact fun htyped => ⟨fields, rfl, htyped⟩
  · exact (Verdict.orMalformed_faults _ _).mono fun f hf => hf.shape _

/-- What is known of the faults with which a circle or a sphere fails to be read from a value. -/
structure CenteredFaults (r : Except Fault α) (v : Value) : Prop where
  unknown_iff : (∃ shown, r = .error (.unknownMetric shown)) ↔
    ∃ name, MetricMissed v name ∧ name.Showable
  /-- A value in the place of the metric that cannot be shown gives its own fault. -/
  unshown : ∀ name f, MetricMissed v name → name.StopsAt f → r = .error f
  unusable : ∀ f, r = .error f → f.IsUnusableArgument →
    CenteredShape.MeetsGeoJson v ∨ ∃ name, MetricMissed v name ∧ name.StopsAt f

theorem Fault.WithinArgument.not_unknown {shown : String}
    (h : (Fault.unknownMetric shown).WithinArgument A) : False := by
  rcases h with hother | hshape | ⟨-, hargument⟩
  · exact hother trivial
  · exact hshape
  · exact hargument

theorem Fault.WithinArgument.of_unusable (h : f.WithinArgument A) (hf : f.IsUnusableArgument) :
    A := by
  rcases h with hother | hshape | ⟨ha, -⟩
  · exact absurd hf.isConversion hother
  · exact absurd hf (Fault.not_both hshape)
  · exact ha

theorem CenteredFaults.ofMissed {fields : Document} {name : Value}
    (hname : MetricMissed (.document fields) name) (kind : String) :
    CenteredFaults (CenteredShape.ofDocument kind fields) (.document fields) := by
  rcases CenteredShape.ofDocument_missed_cases hname kind with
    ⟨hshow, shown, hread⟩ | ⟨e, hstops, hread⟩
  · rw [hread]
    refine ⟨iff_of_true ⟨shown, rfl⟩ ⟨name, hname, hshow⟩, fun other f hother hf => ?_, ?_⟩
    · obtain rfl := hname.unique hother
      exact absurd hf hshow.not_stopsAt
    · rintro _ ⟨⟩ hargument
      exact hargument.elim
  · rw [hread]
    refine ⟨iff_of_false ?_ ?_, fun other f hother hf => ?_, ?_⟩
    · rintro ⟨shown, heq⟩
      exact hstops.ne_unknownMetric shown (Except.error.inj heq)
    · rintro ⟨other, hother, hshow⟩
      obtain rfl := hname.unique hother
      exact hshow.not_stopsAt hstops
    · obtain rfl := hname.unique hother
      rw [hstops.unique hf]
    · rintro _ ⟨⟩ -
      exact Or.inr ⟨name, hname, hstops⟩

theorem CenteredShape.centeredFaults (kind : String) (fields : Document) :
    CenteredFaults (CenteredShape.ofDocument kind fields) (.document fields) := by
  by_cases hmissed : ∃ name, MetricMissed (.document fields) name
  · obtain ⟨name, hname⟩ := hmissed
    exact CenteredFaults.ofMissed hname kind
  · have hnone : ∀ name, ¬ MetricMissed (.document fields) name := not_exists.mp hmissed
    have hfaults := CenteredShape.ofDocument_faults kind hnone
    refine ⟨iff_of_false ?_ ?_, fun name _ hname => absurd hname (hnone name), ?_⟩
    · rintro ⟨shown, hs⟩
      exact (hfaults _ hs).not_unknown
    · rintro ⟨name, hname, -⟩
      exact hnone name hname
    · intro f hf hargument
      exact Or.inl ((hfaults f hf).of_unusable hargument)

theorem CenteredFaults.map {r : Except Fault α} {v : Value} (h : CenteredFaults r v) (k : α → β) :
    CenteredFaults (r.map k) v := by
  cases r with
  | error e =>
    refine ⟨?_, fun name f hname hf => ?_, fun f hf => h.unusable f (by cases hf; rfl)⟩
    · rw [← h.unknown_iff]
      simp [Except.map]
    · obtain rfl := Except.error.inj (h.unshown name f hname hf)
      rfl
  | ok a =>
    refine ⟨?_, fun name f hname hf => ?_, fun f hf => ?_⟩
    · rw [← h.unknown_iff]
      simp [Except.map]
    · cases h.unshown name f hname hf
    · cases hf

/-- From what is no document nothing is read, and the fault is a malformed shape. -/
theorem CenteredFaults.ofOther {r : Except Fault α} {v : Value} (hv : ∀ fields, v ≠ .document fields)
    (h : ∀ f, r = .error f → f.IsMalformedShape) : CenteredFaults r v := by
  have hnone : ∀ name, ¬ MetricMissed v name := by
    rintro name ⟨fields, hdocument, -⟩
    exact hv fields hdocument
  refine ⟨iff_of_false ?_ ?_, fun name _ hname => absurd hname (hnone name), ?_⟩
  · rintro ⟨shown, hs⟩
    exact h _ hs
  · rintro ⟨name, hname, -⟩
    exact hnone name hname
  · intro f hf hargument
    exact absurd hargument (Fault.not_both (h f hf))

theorem CenteredShape.decode_centeredFaults (kind : String) (v : Value) :
    CenteredFaults (CenteredShape.decode kind v) v := by
  unfold CenteredShape.decode
  split
  · exact CenteredFaults.ofOther nofun nofun
  · exact (CenteredShape.centeredFaults kind _).map some
  · next hdocument =>
    refine CenteredFaults.ofOther hdocument ?_
    rintro _ ⟨⟩
    trivial

theorem Circle.decode_centeredFaults (v : Value) : CenteredFaults (Circle.decode v) v := by
  rw [Circle.decode_eq]
  exact (CenteredShape.decode_centeredFaults "circle" v).map _

theorem Sphere.decode_centeredFaults (v : Value) : CenteredFaults (Sphere.decode v) v := by
  rw [Sphere.decode_eq]
  exact (CenteredShape.decode_centeredFaults "sphere" v).map _

/-! ### All readers -/

theorem Fault.WithinArgument.of_failsOnly {r : Except Fault α}
    (h : FailsOnly r (Fault.WithinArgument A)) :
    (∀ f, r = .error f → f.IsUnusableArgument → A) ∧ ∀ shown, r ≠ .error (.unknownMetric shown) := by
  refine ⟨fun f hf hargument => (h f hf).of_unusable hargument, ?_⟩
  intro shown hshown
  exact (h _ hshown).not_unknown

/-- **The kind of the fault with which each reader fails, from every value.** Overflow aside, a
point and a GeoJSON document fail as an unusable argument and as a malformed shape under opposite
conditions, unless the type of the document has a whole number in it that is too long to be shown.
The other readers fail as an unusable argument only where they meet GeoJSON; a circle and a sphere
also where the value in the place of the metric names none and cannot be shown. Where it can be
shown, and nowhere else, the metric is unknown, and otherwise the fault is that of the first thing
in it that is not shown. -/
theorem readers_fault_kind (v : Value) :
    (∀ f, Point.decode v = .error f → f ≠ .overflow →
      (f.IsUnusableArgument ↔ DocumentOfType "Point" v) ∧
      (f.IsMalformedShape ↔ ¬ DocumentOfType "Point" v)) ∧
    ((∀ f, decodeGeoJson v = .error f → f ≠ .overflow → f ≠ .tooManyDigits →
      (f.IsMalformedShape ↔ BrokenRing v) ∧ (f.IsUnusableArgument ↔ ¬ BrokenRing v)) ∧
      (decodeGeoJson v = .error .tooManyDigits ↔ Geometry.TypeUnshown v)) ∧
    ((∀ f, Box.decode v = .error f → f.IsUnusableArgument → Box.MeetsGeoJson v) ∧
      ∀ shown, Box.decode v ≠ .error (.unknownMetric shown)) ∧
    ((∀ f, Polygon.decode v = .error f → f.IsUnusableArgument → Polygon.MeetsGeoJson v) ∧
      ∀ shown, Polygon.decode v ≠ .error (.unknownMetric shown)) ∧
    (CenteredFaults (Circle.decode v) v ∧
      (Circle.decode v = .error .tooManyDigits ↔ CenteredShape.MetricUnshown v)) ∧
    (CenteredFaults (Sphere.decode v) v ∧
      (Sphere.decode v = .error .tooManyDigits ↔ CenteredShape.MetricUnshown v)) := by
  have hpoint : ∀ f, Point.decode v = .error f → f ≠ .overflow →
      (f.IsUnusableArgument ↔ DocumentOfType "Point" v) ∧
      (f.IsMalformedShape ↔ ¬ DocumentOfType "Point" v) := by
    intro f hf hoverflow
    have hconversion := ((Point.decode_reads v).contained f hf).resolve_left hoverflow
    exact (Point.decode_faults v f hf).kinds hconversion
  have hgeo : ∀ f, decodeGeoJson v = .error f → f ≠ .overflow → f ≠ .tooManyDigits →
      (f.IsMalformedShape ↔ BrokenRing v) ∧ (f.IsUnusableArgument ↔ ¬ BrokenRing v) := by
    intro f hf hoverflow hdigits
    have hconversion := (((decodeGeoJson_escapes v).contained f hf).resolve_left
      hoverflow).resolve_left hdigits
    obtain ⟨hargument, hshape⟩ := (decodeGeoJson_faults v f hf).kinds hconversion
    exact ⟨hshape.trans not_not, hargument⟩
  exact ⟨hpoint, ⟨hgeo, (decodeGeoJson_escapes v).digits_iff⟩,
    Fault.WithinArgument.of_failsOnly (Box.decode_faults v),
    Fault.WithinArgument.of_failsOnly (Polygon.decode_faults v),
    ⟨Circle.decode_centeredFaults v, (Circle.decode_escapes v).digits_iff⟩,
    Sphere.decode_centeredFaults v, (Sphere.decode_escapes v).digits_iff⟩

/-- A document of a circle with a value in the place of its metric. -/
def circleOfMetric (metric : Value) : Document :=
  [("center", .list [.int 1, .int 2]), ("metric", metric), ("radius", .int 1)]

theorem circleOfMetric_missed {metric : Value} (hnull : metric ≠ .null)
    (hnone : ∀ m : Metric, metric.text? ≠ some m.name) :
    MetricMissed (.document (circleOfMetric metric)) metric := by
  have hradius : (Value.int 1).Fits := Or.inr ⟨1, rfl, by decide +kernel⟩
  exact ⟨circleOfMetric metric, rfl, nofun, hradius, rfl, hnull, hnone⟩

/-- A whole number with few digits, and behind it one with many. -/
def longList : Value := .list [.int 1, .int (10 ^ digitLimit)]

theorem longList_stopsAt : longList.StopsAt .tooManyDigits := by
  have hone : (Value.int 1).Showable := by
    rw [Value.showable_iff]
    refine ⟨fun e h => ?_, by simp [Value.parts]⟩
    have hfew : digitCount (1 : Int).natAbs ≤ digitLimit := by decide +kernel
    exact Nat.not_lt.mpr hfew (Value.obstructed_int.mp h).1
  have hfree : ∀ e, ¬ longList.Obstructed e := Value.not_obstructed nofun nofun
  have hsplit : longList.parts = [.int 1] ++ .int (10 ^ digitLimit) :: [] := rfl
  exact .inside hfree hsplit (by simpa using hone) (.here (.digits digitLimit_lt_self))

/-- The metric is missed and what stands in its place cannot be shown: a wrapper of a number, which
has no GeoJSON type, and a whole number with many digits in a list. -/
theorem readers_fault_kind_unshown :
    Circle.decode (.document (circleOfMetric (.geoJson (.int 5)))) =
        .error (.unusableArgument (.unknownType "int")) ∧
      (Circle.decode (.document (circleOfMetric longList)) = .error .tooManyDigits) ∧
      ¬ ∃ shown, Circle.decode (.document (circleOfMetric (.geoJson (.int 5)))) =
        .error (.unknownMetric shown) := by
  have hwrapper : (Value.geoJson (.int 5)).StopsAt (.unusableArgument (.unknownType "int")) :=
    .here (.untyped rfl)
  have hmissed : MetricMissed (.document (circleOfMetric (.geoJson (.int 5)))) (.geoJson (.int 5)) :=
    circleOfMetric_missed nofun nofun
  have hmissed' : MetricMissed (.document (circleOfMetric longList)) longList :=
    circleOfMetric_missed nofun nofun
  have hread := (readers_fault_kind (.document (circleOfMetric (.geoJson (.int 5))))).2.2.2.2.1.1
  have hread' := (readers_fault_kind (.document (circleOfMetric longList))).2.2.2.2.1.1
  refine ⟨hread.unshown _ _ hmissed hwrapper, hread'.unshown _ _ hmissed' longList_stopsAt, ?_⟩
  rw [hread.unknown_iff]
  rintro ⟨name, hname, hshow⟩
  obtain rfl := hname.unique hmissed
  exact hshow.not_stopsAt hwrapper

end ShapeCodec
