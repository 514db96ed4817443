/-
# What gets out of the readers

When exactly a reader fails with a fault that it is not meant to fail with. For every reader this is
an overflow. Points, rows of them, polygons and boxes have no other way; a circle or a sphere
overflows in its radius, or in its center, which is read after it.

Three readers show a value in the message of a fault: a circle and a sphere what stands in the place
of a metric and names none, and GeoJSON the type. Where the first thing in that value that cannot be
shown is a whole number with too many digits, this gets out of them instead.

The conditions are exact (`readers_clean_iff`): outside them every reader keeps to the faults it is
meant to fail with, and under them it does not.

Key definitions: `Escapes`, `MetricMissed`, `CenteredShape.OutOfRange`,
`CenteredShape.MetricUnshown`, `Geometry.OutOfRange`, `Geometry.TypeUnshown`.
Key theorems: `CenteredShape.ofDocument_missed`, `CenteredShape.decode_escapes`,
`Geometry.decode_escapes`, `readers_clean_iff`.
-/
import ShapeCodec.Proofs.Shape.Overflow
import ShapeCodec.Proofs.Shape.Showing

namespace ShapeCodec

variable {α β : Type}

/-! ### What is shown -/

/-- A whole number has too many digits from a power of ten on. -/
theorem digitLimit_lt_iff {n : Nat} : digitLimit < digitCount n ↔ 10 ^ digitLimit ≤ n := by
  have hlimit : 0 < digitLimit := by decide +kernel
  rw [← not_le, digitCount, Nat.length_toDigits_le_iff (by decide) hlimit, not_lt]

/-- The first of them. -/
theorem digitLimit_lt_self : digitLimit < digitCount (10 ^ digitLimit : Int).natAbs := by
  rw [digitLimit_lt_iff, Int.natAbs_pow]
  rfl

/-- An outcome that is, under exactly the given conditions, an overflow or a whole number that has
too many digits to be shown, and otherwise a result or a meant fault. -/
structure Escapes (r : Except Fault α) (tooLarge unshown : Prop) : Prop where
  contained : ∀ f, r = .error f → f = .overflow ∨ f = .tooManyDigits ∨ f.IsConversion
  overflow_iff : r = .error .overflow ↔ tooLarge
  digits_iff : r = .error .tooManyDigits ↔ unshown

section
variable {r : Except Fault α} {t T u U : Prop}

theorem Escapes.congr (h : Escapes r t u) (ht : t ↔ T) (hu : u ↔ U) : Escapes r T U :=
  ⟨h.contained, h.overflow_iff.trans ht, h.digits_iff.trans hu⟩

/-- Where nothing is shown, at most an overflow gets out. -/
theorem Fails.escapes (h : Fails r t) (hu : ¬ u) : Escapes r t u := by
  refine ⟨fun f hf => (h.contained f hf).imp_right Or.inr, h.overflow_iff, iff_of_false ?_ hu⟩
  intro hdigits
  rcases h.contained _ hdigits with hoverflow | hconversion
  · cases hoverflow
  · exact hconversion

theorem Escapes.map (h : Escapes r t u) (k : α → β) : Escapes (r.map k) t u := by
  cases r with
  | error e =>
    refine ⟨fun f hf => h.contained f (by cases hf; rfl), ?_, ?_⟩
    · simpa [Except.map] using h.overflow_iff
    · simpa [Except.map] using h.digits_iff
  | ok a =>
    refine ⟨nofun, ?_, ?_⟩
    · simpa [Except.map] using h.overflow_iff
    · simpa [Except.map] using h.digits_iff

theorem Escapes.clean_iff (h : Escapes r t u) : Clean r ↔ ¬ (t ∨ u) := by
  rw [← h.overflow_iff, ← h.digits_iff]
  constructor
  · rintro hclean (hoverflow | hdigits)
    · exact hclean _ hoverflow
    · exact hclean _ hdigits
  · intro hn e he
    rcases h.contained e he with rfl | rfl | hconversion
    · exact absurd (Or.inl he) hn
    · exact absurd (Or.inr he) hn
    · exact hconversion

/-- The fault of a value that was to be shown gets out if it is one of too many digits. -/
theorem Value.StopsAt.escapes {v : Value} {e : Fault} (h : v.StopsAt e) (ht : ¬ t) :
    Escapes (.error e : Except Fault α) t (v.StopsAt .tooManyDigits) := by
  have hfault := h.fault
  refine ⟨?_, iff_of_false ?_ ht, ?_⟩
  · rintro _ ⟨⟩
    exact Or.inr (hfault.imp_right Fault.IsUnusableArgument.isConversion)
  · rintro ⟨⟩
    rcases hfault with hdigits | hunusable
    · cases hdigits
    · exact hunusable
  · constructor
    · rintro ⟨⟩
      exact h
    · intro hdigits
      rw [h.unique hdigits]

end

/-! ### Circles and spheres -/

/-- A document that names a metric or leaves it out. -/
def MetricGiven (fields : Document) : Prop :=
  ∀ v, fields.lookup "metric" = some v → ∃ m, v.metric? = some m

/-- A value that would be a circle or a sphere with a number past every double: the radius, or a
coordinate of the center where the radius and the metric do not stop the reader before it. -/
def CenteredShape.OutOfRange (v : Value) : Prop :=
  ∃ fields, v = .document fields ∧ fieldOrNull fields "center" ≠ .null ∧
    ((fieldOrNull fields "radius").TooLarge ∨
      (fieldOrNull fields "radius").Fits ∧ MetricGiven fields ∧
        Point.OutOfRange (fieldOrNull fields "center"))

/-- A document with a center and a radius, and in the place of its metric a value that is none. -/
def MetricMissed (v name : Value) : Prop :=
  ∃ fields, v = .document fields ∧ fieldOrNull fields "center" ≠ .null ∧
    (fieldOrNull fields "radius").Fits ∧ fields.lookup "metric" = some name ∧ name ≠ .null ∧
    ∀ m : Metric, name.text? ≠ some m.name

/-- A value that would be a circle or a sphere, but for a value in the place of the metric that is
none and cannot be shown, as it has a whole number of too many digits in it. -/
def CenteredShape.MetricUnshown (v : Value) : Prop :=
  ∃ name, MetricMissed v name ∧ name.StopsAt .tooManyDigits

theorem MetricMissed.unique {v name other : Value} (h : MetricMissed v name)
    (h' : MetricMissed v other) : name = other := by
  obtain ⟨fields, rfl, -, -, hname, -⟩ := h
  obtain ⟨_, ⟨⟩, -, -, hother, -⟩ := h'
  exact Option.some.inj (hname.symm.trans hother)

theorem Metric.ofName?_eq_none {text : String} :
    Metric.ofName? text = none ↔ ∀ m : Metric, text ≠ m.name := by
  constructor
  · rintro h m rfl
    cases h.symm.trans (Metric.ofName?_name m)
  · intro h
    simp [Metric.ofName?, h]

theorem Value.metric?_eq_none {v : Value} :
    v.metric? = none ↔ ∀ m : Metric, v.text? ≠ some m.name := by
  unfold Value.metric?
  cases v.text? with
  | none => simp
  | some text => simp [Metric.ofName?_eq_none]

theorem requiredField_reads (fields : Document) (name part : String) :
    Reads (requiredField fields name part) (fieldOrNull fields name ≠ .null) False := by
  unfold requiredField
  split
  · next h => exact Reads.meant trivial (by simp [fieldOrNull, h]) id
  · next h => exact (Reads.ok _).congr (by simpa [fieldOrNull] using h) Iff.rfl

theorem requiredField_eq_ok_iff {fields : Document} {name part : String} {v : Value} :
    requiredField fields name part = .ok v ↔ v = fieldOrNull fields name ∧ v ≠ .null := by
  unfold requiredField fieldOrNull
  split
  · next h => simp [h]
  · next h =>
    rw [Except.ok.injEq]
    constructor
    · rintro rfl
      exact ⟨rfl, h⟩
    · rintro ⟨rfl, -⟩
      rfl

theorem Value.Fits.ne_null {v : Value} (h : v.Fits) : v ≠ .null := by
  rintro rfl
  rcases h with ⟨x, hx⟩ | ⟨n, hn, -⟩
  · cases hx
  · cases hn

theorem Value.TooLarge.ne_null {v : Value} (h : v.TooLarge) : v ≠ .null := by
  obtain ⟨n, rfl, -⟩ := h
  nofun

theorem Value.Fits.not_tooLarge {v : Value} (h : v.Fits) : ¬ v.TooLarge := by
  rintro ⟨n, rfl, hlarge⟩
  rcases h with ⟨x, hx⟩ | ⟨_, ⟨⟩, hfits⟩
  · cases hx
  · exact Nat.not_le.mpr hfits hlarge

theorem Distance.ofNumber_judges (v : Value) : Judges (Distance.ofNumber v) v.Fits v.TooLarge :=
  (v.acceptNumber_judges.within "value").map _

theorem radiusInMetric_missed {fields : Document} {name : Value} (d : Distance)
    (hname : fields.lookup "metric" = some name) (hnull : name ≠ .null)
    (hnone : ∀ m : Metric, name.text? ≠ some m.name) :
    radiusInMetric fields d = name.literal >>= fun shown => .error (.unknownMetric shown) := by
  have hresolve : radiusInMetric fields d = (Metric.resolve name).map d.inMetric := by
    unfold radiusInMetric
    rw [hname]
    cases name with
    | null => exact absurd rfl hnull
    | _ => rfl
  rw [hresolve, Metric.resolve, Value.metric?_eq_none.mpr hnone]
  cases name.literal <;> rfl

/-- **Where the metric is missed, nothing is read but the value in its place**, and the fault
shows it. -/
theorem CenteredShape.ofDocument_missed {kind : String} {fields : Document} {name : Value}
    (h : MetricMissed (.document fields) name) :
    CenteredShape.ofDocument kind fields =
      name.literal >>= fun shown => .error (.unknownMetric shown) := by
  obtain ⟨_, ⟨⟩, hcenter, hradius, hname, hnull, hnone⟩ := h
  obtain ⟨d, hd⟩ := (Distance.ofNumber_judges _).accepted_iff.mpr hradius
  have hcenter' : requiredField fields "center" "Center" = .ok (fieldOrNull fields "center") :=
    requiredField_eq_ok_iff.mpr ⟨rfl, hcenter⟩
  have hradius' : requiredField fields "radius" "Radius" = .ok (fieldOrNull fields "radius") :=
    requiredField_eq_ok_iff.mpr ⟨rfl, hradius.ne_null⟩
  have hmetric := radiusInMetric_missed d hname hnull hnone
  unfold CenteredShape.ofDocument
  rw [hcenter', hradius']
  simp only [bind, Except.bind, hd, Verdict.orMalformed_accepted] at hmetric ⊢
  rw [hmetric]
  cases name.literal <;> rfl

/-- So the metric is unknown if that value can be shown, and otherwise there is the fault where it
stops. -/
theorem CenteredShape.ofDocument_missed_cases {fields : Document} {name : Value}
    (h : MetricMissed (.document fields) name) (kind : String) :
    (name.Showable ∧
      ∃ shown, CenteredShape.ofDocument kind fields = .error (.unknownMetric shown)) ∨
    ∃ e, name.StopsAt e ∧ CenteredShape.ofDocument kind fields = .error e := by
  rw [CenteredShape.ofDocument_missed h, ← name.literal_shows.ok_iff]
  cases hliteral : name.literal with
  | ok shown => exact Or.inl ⟨⟨shown, rfl⟩, shown, rfl⟩
  | error e => exact Or.inr ⟨e, (name.literal_shows.error_iff e).mp hliteral, rfl⟩

/-- What stands in the place of the metric is one, if it is not missed with a center and a radius
there. -/
theorem metric?_of_not_missed {fields : Document} {name : Value}
    (hknown : ∀ name, ¬ MetricMissed (.document fields) name)
    (hcenter : fieldOrNull fields "center" ≠ .null) (hradius : (fieldOrNull fields "radius").Fits)
    (hname : fields.lookup "metric" = some name) (hnull : name ≠ .null) :
    ∃ m, name.metric? = some m := by
  rw [← Option.ne_none_iff_exists']
  intro hnone
  exact hknown name
    ⟨fields, rfl, hcenter, hradius, hname, hnull, Value.metric?_eq_none.mp hnone⟩

theorem radiusInMetric_reads {fields : Document} (d : Distance)
    (hknown : ∀ name, fields.lookup "metric" = some name → name ≠ .null →
      ∃ m, name.metric? = some m) :
    Reads (radiusInMetric fields d) (MetricGiven fields) False := by
  unfold radiusInMetric
  split
  · next h => exact (Reads.ok d).congr (by simp [MetricGiven, h]) Iff.rfl
  · next h =>
    exact Reads.meant trivial (by simp [MetricGiven, h, Value.metric?, Value.text?]) id
  · next name hnull h =>
    obtain ⟨m, hm⟩ := hknown name h hnull
    rw [Metric.resolve, hm]
    exact (Reads.ok _).congr (by simp [MetricGiven, h, hm]) Iff.rfl

theorem CenteredShape.ofParts_judges (center : Point) (radius : Distance) :
    Judges (CenteredShape.ofParts center radius) (¬ radius.value < 0) False := by
  unfold CenteredShape.ofParts Distance.asRadius
  split
  · next h => exact ⟨by simp [Verdict.refuse, Verdict.within, Verdict.map, h],
      by simp [Verdict.refuse, Verdict.within, Verdict.map]⟩
  · next h => exact ⟨by simp [Verdict.within, Verdict.map, h],
      by simp [Verdict.within, Verdict.map]⟩

/-- Where no metric is missed, a circle or a sphere is read number by number. -/
theorem CenteredShape.ofDocument_fails (kind : String) {fields : Document}
    (hknown : ∀ name, ¬ MetricMissed (.document fields) name) :
    Fails (CenteredShape.ofDocument kind fields) (CenteredShape.OutOfRange (.document fields)) := by
  have hchain : Fails (CenteredShape.ofDocument kind fields)
      (False ∨ fieldOrNull fields "center" ≠ .null ∧
        (False ∨ fieldOrNull fields "radius" ≠ .null ∧
          ((fieldOrNull fields "radius").TooLarge ∨ (fieldOrNull fields "radius").Fits ∧
            (False ∨ MetricGiven fields ∧ Point.OutOfRange (fieldOrNull fields "center"))))) := by
    unfold CenteredShape.ofDocument
    refine (requiredField_reads fields "center" "Center").bindFails fun center hcenter => ?_
    refine (requiredField_reads fields "radius" "Radius").bindFails fun radius hradius => ?_
    obtain ⟨rfl, hcenter⟩ := requiredField_eq_ok_iff.mp hcenter
    obtain ⟨rfl, -⟩ := requiredField_eq_ok_iff.mp hradius
    have hnumber := (Distance.ofNumber_judges (fieldOrNull fields "radius")).orMalformed
      (kind ++ " radius")
    refine hnumber.bindFails fun distance hdistance => ?_
    have hfits := hnumber.ok_iff.mp ⟨distance, hdistance⟩
    have hmetric : ∀ name, fields.lookup "metric" = some name → name ≠ .null →
        ∃ m, name.metric? = some m :=
      fun name => metric?_of_not_missed hknown hcenter hfits
    refine (radiusInMetric_reads distance hmetric).bindFails fun distance _ => ?_
    exact (Point.ofValue_reads _).toFails.bind_right fun center =>
      ((CenteredShape.ofParts_judges center distance).orMalformed kind).toFails
  refine hchain.congr ?_
  -- a radius that is a number, too large or not, is not null
  have hradius : ((fieldOrNull fields "radius").TooLarge ∨
      (fieldOrNull fields "radius").Fits ∧ MetricGiven fields ∧
        Point.OutOfRange (fieldOrNull fields "center")) → fieldOrNull fields "radius" ≠ .null := by
    rintro (h | ⟨h, -⟩)
    · exact h.ne_null
    · exact h.ne_null
  simp only [false_or, and_iff_right_of_imp hradius]
  simp [CenteredShape.OutOfRange]

theorem MetricMissed.not_outOfRange {v name : Value} (h : MetricMissed v name) :
    ¬ CenteredShape.OutOfRange v := by
  obtain ⟨fields, rfl, -, hradius, hname, -, hnone⟩ := h
  rintro ⟨_, ⟨⟩, -, hlarge | ⟨-, hgiven, -⟩⟩
  · exact hradius.not_tooLarge hlarge
  · obtain ⟨m, hm⟩ := hgiven name hname
    cases hm.symm.trans (Value.metric?_eq_none.mpr hnone)

theorem CenteredShape.ofDocument_escapes (kind : String) (fields : Document) :
    Escapes (CenteredShape.ofDocument kind fields) (CenteredShape.OutOfRange (.document fields))
      (CenteredShape.MetricUnshown (.document fields)) := by
  by_cases hmissed : ∃ name, MetricMissed (.document fields) name
  · obtain ⟨name, hname⟩ := hmissed
    have hunshown : name.StopsAt .tooManyDigits ↔
        CenteredShape.MetricUnshown (.document fields) := by
      constructor
      · intro h
        exact ⟨name, hname, h⟩
      · rintro ⟨other, hother, h⟩
        exact hname.unique hother ▸ h
    rcases CenteredShape.ofDocument_missed_cases hname kind with
      ⟨hshow, shown, hread⟩ | ⟨e, hstops, hread⟩
    · have hshown : ¬ CenteredShape.MetricUnshown (.document fields) :=
        hunshown.not.mp hshow.not_stopsAt
      rw [hread]
      exact Fails.escapes (Fails.meant trivial hname.not_outOfRange) hshown
    · rw [hread]
      exact (hstops.escapes hname.not_outOfRange).congr Iff.rfl hunshown
  · have hknown : ∀ name, ¬ MetricMissed (.document fields) name := not_exists.mp hmissed
    exact (CenteredShape.ofDocument_fails kind hknown).escapes fun ⟨name, hname, _⟩ =>
      hknown name hname

theorem CenteredShape.decode_escapes (kind : String) (v : Value) :
    Escapes (CenteredShape.decode kind v) (CenteredShape.OutOfRange v)
      (CenteredShape.MetricUnshown v) := by
  -- from null or from no document no number is read and nothing is shown
  have hother : (∀ fields, v ≠ .document fields) →
      ¬ CenteredShape.OutOfRange v ∧ ¬ CenteredShape.MetricUnshown v := by
    intro hv
    constructor
    · rintro ⟨fields, hdocument, -⟩
      exact hv fields hdocument
    · rintro ⟨name, ⟨fields, hdocument, -⟩, -⟩
      exact hv fields hdocument
  unfold CenteredShape.decode
  split
  · obtain ⟨hrange, hshown⟩ := hother nofun
    exact ((Reads.ok none).toFails.congr (by simp [hrange])).escapes hshown
  · exact (CenteredShape.ofDocument_escapes kind _).map some
  · next hdocument =>
    obtain ⟨hrange, hshown⟩ := hother hdocument
    exact Fails.escapes (Fails.meant trivial hrange) hshown

theorem Circle.decode_escapes (v : Value) :
    Escapes (Circle.decode v) (CenteredShape.OutOfRange v) (CenteredShape.MetricUnshown v) := by
  rw [Circle.decode_eq]
  exact (CenteredShape.decode_escapes "circle" v).map _

theorem Sphere.decode_escapes (v : Value) :
    Escapes (Sphere.decode v) (CenteredShape.OutOfRange v) (CenteredShape.MetricUnshown v) := by
  rw [Sphere.decode_eq]
  exact (CenteredShape.decode_escapes "sphere" v).map _

/-! ### GeoJSON -/

/-- A GeoJSON document of a point or a polygon, by the text of its type, with a coordinate past
every double. -/
def Geometry.OutOfRange (v : Value) : Prop :=
  ∃ fields type, v = .document fields ∧ fields.lookup "type" = some type ∧
    (type.display = .ok "Point" ∧ TooLargeAt (GeoJsonPairOf fields) ∨
      type.display = .ok "Polygon" ∧ GeoJsonRingOutOfRange fields)

/-- A document with a type that cannot be shown, as it has a whole number of too many digits in
it. -/
def Geometry.TypeUnshown (v : Value) : Prop :=
  ∃ fields type, v = .document fields ∧ fields.lookup "type" = some type ∧
    type.StopsAt .tooManyDigits

theorem Geometry.ofType_fails (type : String) (fields : Document) :
    Fails (Geometry.ofType type fields)
      (type = "Point" ∧ TooLargeAt (GeoJsonPairOf fields) ∨
        type = "Polygon" ∧ GeoJsonRingOutOfRange fields) := by
  unfold Geometry.ofType
  split
  · next h =>
    exact ((Point.ofGeoJson_reads fields).toFails.map _).congr (by simp [h])
  · next hpoint =>
    split
    · next h => exact ((Polygon.ofGeoJson_fails fields).map _).congr (by simp [h])
    · next h => exact Fails.meant trivial (by simp [hpoint, h])

theorem Geometry.ofFields_escapes (fields : Document) :
    Escapes (Geometry.ofFields fields) (Geometry.OutOfRange (.document fields))
      (Geometry.TypeUnshown (.document fields)) := by
  unfold Geometry.ofFields
  split
  · next h =>
    have hrange : ¬ Geometry.OutOfRange (.document fields) := by simp [Geometry.OutOfRange, h]
    have hshown : ¬ Geometry.TypeUnshown (.document fields) := by simp [Geometry.TypeUnshown, h]
    exact Fails.escapes (Fails.meant trivial hrange) hshown
  · next type h =>
    have hunshown : type.StopsAt .tooManyDigits ↔ Geometry.TypeUnshown (.document fields) := by
      simp [Geometry.TypeUnshown, h]
    cases hname : type.display with
    | error e =>
      have hstops : type.StopsAt e := (type.display_shows.error_iff e).mp hname
      have hrange : ¬ Geometry.OutOfRange (.document fields) := by
        simp [Geometry.OutOfRange, h, hname]
      exact (hstops.escapes hrange).congr Iff.rfl hunshown
    | ok name =>
      have hshown : ¬ Geometry.TypeUnshown (.document fields) := by
        rw [← hunshown, ← type.display_shows.error_iff, hname]
        nofun
      refine Fails.escapes ?_ hshown
      exact (Geometry.ofType_fails name fields).congr (by simp [Geometry.OutOfRange, h, hname])

theorem Geometry.decode_escapes (v : Value) :
    Escapes (Geometry.decode v) (Geometry.OutOfRange v) (Geometry.TypeUnshown v) := by
  have hother : (∀ fields, v ≠ .document fields) →
      ¬ Geometry.OutOfRange v ∧ ¬ Geometry.TypeUnshown v := by
    intro hv
    constructor
    · rintro ⟨fields, -, hdocument, -⟩
      exact hv fields hdocument
    · rintro ⟨fields, -, hdocument, -⟩
      exact hv fields hdocument
  unfold Geometry.decode
  split
  · obtain ⟨hrange, hshown⟩ := hother nofun
    exact ((Reads.ok none).toFails.congr (by simp [hrange])).escapes hshown
  · exact (Geometry.ofFields_escapes _).map some
  · next hdocument =>
    obtain ⟨hrange, hshown⟩ := hother hdocument
    exact Fails.escapes (Fails.meant trivial hrange) hshown

theorem decodeGeoJson_escapes (v : Value) :
    Escapes (decodeGeoJson v) (Geometry.OutOfRange v) (Geometry.TypeUnshown v) :=
  (Geometry.decode_escapes v).map _

/-! ### All readers -/

section
variable {r : Except Fault α} {t u : Prop}

/-- An outcome that is an overflow exactly under a condition, and clean exactly outside it. -/
theorem Fails.exact (h : Fails r t) : (Clean r ↔ ¬ t) ∧ (r = .error .overflow ↔ t) :=
  ⟨h.clean_iff, h.overflow_iff⟩

/-- The same where a value can also be too long to be shown. -/
theorem Escapes.exact (h : Escapes r t u) : (Clean r ↔ ¬ (t ∨ u)) ∧ (r = .error .overflow ↔ t) ∧
    (r = .error .tooManyDigits ↔ u) :=
  ⟨h.clean_iff, h.overflow_iff, h.digits_iff⟩

end

/-- **The readers keep to their faults exactly outside two conditions.** On any value a reader gives
a result or fails with a fault it is meant to fail with, unless a number that is read before any
fault is past every double; then the overflow gets out of it. The readers that show a value, circles
and spheres what should be a metric and GeoJSON its type, fail in a second way: where a whole number
in that value has too many digits and is the first thing in it that cannot be shown, this gets out
of them. -/
theorem readers_clean_iff (v : Value) :
    ((Clean (Point.decode v) ↔ ¬ Point.OutOfRange v) ∧
      (Point.decode v = .error .overflow ↔ Point.OutOfRange v)) ∧
    ((Clean (Box.decode v) ↔ ¬ Box.OutOfRange v) ∧
      (Box.decode v = .error .overflow ↔ Box.OutOfRange v)) ∧
    ((Clean (Circle.decode v) ↔ ¬ (CenteredShape.OutOfRange v ∨ CenteredShape.MetricUnshown v)) ∧
      (Circle.decode v = .error .overflow ↔ CenteredShape.OutOfRange v) ∧
      (Circle.decode v = .error .tooManyDigits ↔ CenteredShape.MetricUnshown v)) ∧
    ((Clean (Sphere.decode v) ↔ ¬ (CenteredShape.OutOfRange v ∨ CenteredShape.MetricUnshown v)) ∧
      (Sphere.decode v = .error .overflow ↔ CenteredShape.OutOfRange v) ∧
      (Sphere.decode v = .error .tooManyDigits ↔ CenteredShape.MetricUnshown v)) ∧
    ((Clean (Polygon.decode v) ↔ ¬ Polygon.OutOfRange v) ∧
      (Polygon.decode v = .error .overflow ↔ Polygon.OutOfRange v)) ∧
    ((Clean (decodeGeoJson v) ↔ ¬ (Geometry.OutOfRange v ∨ Geometry.TypeUnshown v)) ∧
      (decodeGeoJson v = .error .overflow ↔ Geometry.OutOfRange v) ∧
      (decodeGeoJson v = .error .tooManyDigits ↔ Geometry.TypeUnshown v)) :=
  ⟨(Point.decode_reads v).toFails.exact, (Box.decode_fails v).exact,
    (Circle.decode_escapes v).exact, (Sphere.decode_escapes v).exact,
    (Polygon.decode_fails v).exact, (decodeGeoJson_escapes v).exact⟩

/-- A pair with a coordinate past every double is out of range, and a whole number of many digits in
the place of the type of a GeoJSON document is not shown. -/
theorem readers_clean_iff_large :
    Point.decode (.list [.int (10 ^ 400), .int 0]) = .error .overflow ∧
      decodeGeoJson (.document [("type", .int (10 ^ digitLimit)), ("coordinates", .list [])]) =
        .error .tooManyDigits := by
  constructor
  · exact (readers_clean_iff _).1.2.mpr
      ⟨.int (10 ^ 400), .int 0, Or.inl rfl, Or.inl ⟨10 ^ 400, rfl, by decide +kernel⟩⟩
  · exact (readers_clean_iff _).2.2.2.2.2.2.2.mpr
      ⟨_, .int (10 ^ digitLimit), rfl, rfl, .here (.digits digitLimit_lt_self)⟩

end ShapeCodec
