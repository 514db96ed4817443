/-
# The doubles of a shape

A shape is taken from a value number by number. Each of its doubles stood in the value, or a whole
number did for which it stands, unless it is a radius that a reader expressed in a metric. The
writers write each double as it is, but for a radius, which they divide by the multiplier of its
metric. So a property that whole numbers have and that dividing by a multiplier keeps goes from a
value to the shape that is accepted of it and on to all that is written of the shape; and it goes
to the shape that a reader makes of the value exactly if the expressed radius has it, where there
is one (`ShapeKind.decode_holds_iff`).

Key definitions: `Lasting`, `Rescaled`, `ShapeKind.Rescales`.
Key theorems: `ShapeKind.accept_holds`, `ShapeKind.decode_holds_iff`, `decodeGeoJson_holds`,
`ShapeKind.Admits.plain_holds_iff`.
-/
import ShapeCodec.Command
import ShapeCodec.Proofs.Double.Finite
import ShapeCodec.Proofs.GeoJson.NormalForm
import ShapeCodec.Proofs.Shape.Admission
import ShapeCodec.Proofs.Shape.Agreement
import ShapeCodec.Proofs.Shape.Inside
import ShapeCodec.Proofs.Value.Numbers

namespace ShapeCodec

/-- A property of doubles that lasts: the doubles that stand for whole numbers have it, and
dividing by a multiplier keeps it. -/
structure Lasting (P : Float → Prop) : Prop where
  whole : ∀ {n : Int} {x : Float}, floatOfInt? n = some x → P x
  divided : ∀ {x : Float} (m : Metric), P x → P (x / m.multiplier)

theorem lasting_finite : Lasting fun x => x.isFinite = true where
  whole h := by
    obtain ⟨hfinite, rfl⟩ := floatOfInt?_eq_some.mp h
    exact hfinite
  divided m hx := Double.div_isFinite hx m

theorem lasting_noNaN : Lasting fun x => x.isNaN = false where
  whole h := by
    obtain ⟨hfinite, rfl⟩ := floatOfInt?_eq_some.mp h
    exact Double.isNaN_of_isFinite hfinite
  divided m hx := Double.div_isNaN hx m

variable {P : Float → Prop} {v s : Value} {fields : Document} {kind : ShapeKind}

/-! ### Numbers and points -/

theorem Value.AllNumbers.fieldOrNull (h : (Value.document fields).AllNumbers P) (name : String) :
    (fieldOrNull fields name).AllNumbers P := Value.Throughout.fieldOrNull Value.allNumbers_null h name

/-- A number stands for one double. -/
theorem Value.Denotes.unique {a b : Float} (ha : v.Denotes a) (hb : v.Denotes b) : a = b :=
  Verdict.accepted.inj
    ((Value.acceptNumber_eq_accepted.mpr ha).symm.trans (Value.acceptNumber_eq_accepted.mpr hb))

theorem Value.Denotes.holds (hP : Lasting P) {a : Float} (h : v.Denotes a) (hv : v.AllNumbers P) :
    P a := by
  rcases h with rfl | ⟨n, rfl, hn⟩
  · exact Value.allNumbers_float.mp hv
  · exact hP.whole hn

theorem Point.StandsAt.holds (hP : Lasting P) {p : Point} {at? : Value → Value → Prop}
    (h : p.StandsAt at?) (hat : ∀ x y, at? x y → x.AllNumbers P ∧ y.AllNumbers P) :
    (Value.point p).AllNumbers P := by
  obtain ⟨x, y, hxy, hx, hy⟩ := h
  obtain ⟨hvx, hvy⟩ := hat x y hxy
  exact Value.allNumbers_point.mpr ⟨hx.holds hP hvx, hy.holds hP hvy⟩

/-- What the elements of a row are taken for has what the row has. -/
theorem RowOf.holds {taken : Value → Point → Prop} {q : Polygon} (h : RowOf taken fields q)
    (htaken : ∀ v p, taken v p → v.AllNumbers P → (Value.point p).AllNumbers P)
    (hv : (Value.document fields).AllNumbers P) : (Value.polygon q).AllNumbers P := by
  obtain ⟨elements, hitems, -, hrow⟩ := h
  rw [Value.allNumbers_polygon]
  exact forall₂_right hrow (fun v hmem => (hv.fieldOrNull "points").item hitems hmem) htaken

/-! ### Acceptance -/

theorem Point.accept_holds (hP : Lasting P) {p : Point} (h : Point.accept v = .accepted p)
    (hv : v.AllNumbers P) : (Value.point p).AllNumbers P := by
  cases v with
  | point q =>
    obtain rfl := Verdict.accepted.inj h
    exact hv
  | document fields =>
    refine (Point.accept_document.mp h).holds hP fun x y hat => ?_
    exact ⟨hv.field hat.1, hv.field hat.2⟩
  | _ => cases h

theorem Box.accept_holds (hP : Lasting P) {b : Box} (h : Box.accept v = .accepted b)
    (hv : v.AllNumbers P) : (Value.box b).AllNumbers P := by
  cases v with
  | box c =>
    obtain rfl := Verdict.accepted.inj h
    exact hv
  | document fields =>
    obtain ⟨hfirst, hsecond⟩ := Box.accept_document.mp h
    exact Value.allNumbers_box.mpr ⟨Point.accept_holds hP hfirst (hv.fieldOrNull "first"),
      Point.accept_holds hP hsecond (hv.fieldOrNull "second")⟩
  | _ => cases h

theorem Distance.accept_holds (hP : Lasting P) {d : Distance} (h : Distance.accept v = .accepted d)
    (hv : v.AllNumbers P) : P d.value := by
  cases v with
  | distance e =>
    obtain rfl := Verdict.accepted.inj h
    exact Value.allNumbers_distance.mp hv
  | document fields =>
    obtain ⟨⟨a, m⟩, hboth, rfl⟩ := Verdict.map_eq_accepted.mp h
    obtain ⟨w, hfield, hw⟩ := acceptField_eq_accepted.mp (Verdict.both_eq_accepted.mp hboth).1
    exact (Value.acceptNumber_eq_accepted.mp hw).holds hP (hv.field hfield)
  | _ => cases h

theorem Distance.acceptRadius_holds (hP : Lasting P) {d : Distance}
    (h : Distance.acceptRadius v = .accepted d) (hv : v.AllNumbers P) : P d.value := by
  have hnumber : (Distance.ofNumber v).andThen Distance.asRadius = .accepted d → P d.value := by
    intro h
    obtain ⟨e, he, hchecked⟩ := Verdict.andThen_eq_accepted.mp h
    obtain ⟨-, rfl⟩ := Distance.asRadius_eq_accepted.mp hchecked
    exact (Distance.ofNumber_eq_accepted.mp he).1.holds hP hv
  unfold Distance.acceptRadius at h
  split at h
  · exact hnumber h
  · exact hnumber h
  · obtain ⟨e, he, hchecked⟩ := Verdict.andThen_eq_accepted.mp h
    obtain ⟨-, rfl⟩ := Distance.asRadius_eq_accepted.mp hchecked
    exact Distance.accept_holds hP he hv

theorem CenteredShape.acceptFields_holds (hP : Lasting P) {t : CenteredShape}
    (h : CenteredShape.acceptFields fields = .accepted t)
    (hv : (Value.document fields).AllNumbers P) :
    (Value.point t.center).AllNumbers P ∧ P t.radius.value := by
  obtain ⟨hcenter, hradius⟩ := CenteredShape.acceptFields_iff.mp h
  exact ⟨Point.accept_holds hP hcenter (hv.fieldOrNull "center"),
    Distance.acceptRadius_holds hP hradius (hv.fieldOrNull "radius")⟩

theorem Circle.accept_holds (hP : Lasting P) {c : Circle} (h : Circle.accept v = .accepted c)
    (hv : v.AllNumbers P) : (Value.circle c).AllNumbers P := by
  cases v with
  | circle =>
    obtain rfl := Verdict.accepted.inj h
    exact hv
  | document fields =>
    obtain ⟨t, ht, rfl⟩ := Verdict.map_eq_accepted.mp h
    exact Value.allNumbers_circle.mpr (CenteredShape.acceptFields_holds hP ht hv)
  | _ => cases h

theorem Sphere.accept_holds (hP : Lasting P) {c : Sphere} (h : Sphere.accept v = .accepted c)
    (hv : v.AllNumbers P) : (Value.sphere c).AllNumbers P := by
  cases v with
  | sphere =>
    obtain rfl := Verdict.accepted.inj h
    exact hv
  | document fields =>
    obtain ⟨t, ht, rfl⟩ := Verdict.map_eq_accepted.mp h
    exact Value.allNumbers_sphere.mpr (CenteredShape.acceptFields_holds hP ht hv)
  | _ => cases h

theorem Polygon.accept_holds (hP : Lasting P) {q : Polygon} (h : Polygon.accept v = .accepted q)
    (hv : v.AllNumbers P) : (Value.polygon q).AllNumbers P := by
  cases v with
  | polygon r =>
    obtain rfl := Verdict.accepted.inj h
    exact hv
  | document fields =>
    exact (Polygon.accept_document.mp h).holds (fun v p => Point.accept_holds hP) hv
  | _ => cases h

/-- **What holds of the doubles of a value holds of those of the shape that is accepted.** -/
theorem ShapeKind.accept_holds (hP : Lasting P) (h : kind.accept v = .accepted s)
    (hv : v.AllNumbers P) : s.AllNumbers P := by
  cases kind with
  | point =>
    obtain ⟨p, hp, rfl⟩ := Verdict.map_eq_accepted.mp h
    exact Point.accept_holds hP hp hv
  | box =>
    obtain ⟨b, hb, rfl⟩ := Verdict.map_eq_accepted.mp h
    exact Box.accept_holds hP hb hv
  | circle =>
    obtain ⟨c, hc, rfl⟩ := Verdict.map_eq_accepted.mp h
    exact Circle.accept_holds hP hc hv
  | sphere =>
    obtain ⟨c, hc, rfl⟩ := Verdict.map_eq_accepted.mp h
    exact Sphere.accept_holds hP hc hv
  | polygon =>
    obtain ⟨q, hq, rfl⟩ := Verdict.map_eq_accepted.mp h
    exact Polygon.accept_holds hP hq hv

/-! ### The readers -/

theorem Point.ofValue_holds (hP : Lasting P) {p : Point} (h : Point.ofValue v = .ok p)
    (hv : v.AllNumbers P) : (Value.point p).AllNumbers P :=
  (Point.ofValue_eq_ok.mp h).holds hP fun _ _ hat => hat.throughout hv

theorem Polygon.ofGeoJson_holds (hP : Lasting P) {q : Polygon}
    (h : Polygon.ofGeoJson fields = .ok q) (hv : (Value.document fields).AllNumbers P) :
    (Value.polygon q).AllNumbers P := by
  obtain ⟨-, elements, ⟨ring, others, hitems, hring⟩, hpoints⟩ := Polygon.ofGeoJson_eq_ok.mp h
  have hfirst : ring.AllNumbers P := Value.Throughout.coordinate hv hitems ring List.mem_cons_self
  rw [Value.allNumbers_polygon]
  refine forall₂_right hpoints (fun u hu => hfirst.item hring hu) fun u p hp hu => ?_
  exact hp.holds hP fun _ _ hat => hat.throughout hu

theorem Point.decode_holds (hP : Lasting P) {p : Point} (h : Point.decode v = .ok (some p))
    (hv : v.AllNumbers P) : (Value.point p).AllNumbers P := by
  unfold Point.decode at h
  split at h
  · cases h
  · obtain ⟨q, hq, hp⟩ := map_eq_ok.mp h
    obtain rfl := Option.some.inj hp
    exact Point.ofValue_holds hP hq hv

theorem Box.ofDocument_holds (hP : Lasting P) {b : Box} (h : Box.ofDocument fields = .ok b)
    (hv : (Value.document fields).AllNumbers P) : (Value.box b).AllNumbers P := by
  rw [Value.allNumbers_box]
  cases htype : hasType fields "Polygon" with
  | false =>
    obtain ⟨hfirst, hsecond⟩ := (Box.ofDocument_eq_ok htype).mp h
    exact ⟨Point.ofValue_holds hP hfirst (hv.fieldOrNull "first"),
      Point.ofValue_holds hP hsecond (hv.fieldOrNull "second")⟩
  | true =>
    rw [Box.ofDocument, if_pos htype] at h
    obtain ⟨q, hq, hb⟩ := bind_eq_ok.mp h
    have hpoints := Value.allNumbers_polygon.mp (Polygon.ofGeoJson_holds hP hq hv)
    unfold Box.ofRing at hb
    split at hb
    · next first between second others hring =>
      obtain rfl := Except.ok.inj hb
      rw [hring] at hpoints
      exact ⟨hpoints first (by simp), hpoints second (by simp)⟩
    · cases hb

theorem Box.decode_holds (hP : Lasting P) {b : Box} (h : Box.decode v = .ok (some b))
    (hv : v.AllNumbers P) : (Value.box b).AllNumbers P := by
  cases v with
  | document fields =>
    obtain ⟨c, hc, hb⟩ := map_eq_ok.mp h
    obtain rfl := Option.some.inj hb
    exact Box.ofDocument_holds hP hc hv
  | _ => cases h

theorem Polygon.ofDocument_holds (hP : Lasting P) {q : Polygon}
    (h : Polygon.ofDocument fields = .ok q) (hv : (Value.document fields).AllNumbers P) :
    (Value.polygon q).AllNumbers P := by
  cases htype : hasType fields "Polygon" with
  | false =>
    exact ((Polygon.ofDocument_eq_ok htype).mp h).holds (fun v p => Point.ofValue_holds hP) hv
  | true =>
    rw [Polygon.ofDocument, if_pos htype] at h
    exact Polygon.ofGeoJson_holds hP h hv

theorem Polygon.decode_holds (hP : Lasting P) {q : Polygon} (h : Polygon.decode v = .ok (some q))
    (hv : v.AllNumbers P) : (Value.polygon q).AllNumbers P := by
  cases v with
  | document fields =>
    obtain ⟨r, hr, hq⟩ := map_eq_ok.mp h
    obtain rfl := Option.some.inj hq
    exact Polygon.ofDocument_holds hP hr hv
  | _ => cases h

/-! ### Radii in a metric -/

/-- The radius of a document, in radians, as it is expressed in the metric of the document. -/
def Rescaled (fields : Document) (a : Float) : Prop :=
  ∃ (r : Float) (m : Metric), (fieldOrNull fields "radius").Denotes r ∧
    (fieldOrNull fields "metric").metric? = some m ∧
    a = ((⟨r, .neutral⟩ : Distance).inMetric m).value

/-- No radius that is a number is expressed as what is none. -/
theorem Rescaled.noNaN {a : Float} (h : Rescaled fields a) (hv : (Value.document fields).NoNaN) :
    a.isNaN = false := by
  obtain ⟨r, m, hr, -, rfl⟩ := h
  have hradius : r.isNaN = false := hr.holds lasting_noNaN (Value.AllNumbers.fieldOrNull hv "radius")
  unfold Distance.inMetric
  split
  · exact hradius
  · exact Double.mul_isNaN (Double.div_isNaN hradius .neutral) m

/-- A radius that is read has what the value has, exactly if it has that in its metric. -/
theorem readRadius_holds_iff (hP : Lasting P) {subject : String} {d : Distance}
    (h : readRadius subject fields = .ok d) (hv : (Value.document fields).AllNumbers P) :
    P d.value ↔ ∀ a, Rescaled fields a → P a := by
  obtain ⟨⟨r, metric⟩, he, h⟩ := bind_eq_ok.mp h
  obtain ⟨e, hexpressed, hchecked⟩ := bind_eq_ok.mp h
  obtain ⟨-, rfl⟩ := Distance.asRadius_eq_accepted.mp (Verdict.orMalformed_eq_ok.mp hchecked)
  obtain ⟨hr, rfl⟩ := Distance.ofNumber_eq_accepted.mp (Verdict.orMalformed_eq_ok.mp he)
  rcases radiusInMetric_eq_ok.mp hexpressed with ⟨hnone, rfl⟩ | ⟨m, hm, rfl⟩
  · refine iff_of_true (hr.holds hP (hv.fieldOrNull "radius")) ?_
    rintro a ⟨-, m, -, hm, -⟩
    rw [fieldOrNull, hnone] at hm
    cases hm
  · constructor
    · rintro hd a ⟨r', m', hr', hm', rfl⟩
      obtain rfl := hr.unique hr'
      obtain rfl := Option.some.inj (hm.symm.trans hm')
      exact hd
    · intro hall
      exact hall _ ⟨r, m, hr, hm, rfl⟩

theorem CenteredShape.ofDocument_holds_iff (hP : Lasting P) {subject : String} {t : CenteredShape}
    (h : CenteredShape.ofDocument subject fields = .ok t)
    (hv : (Value.document fields).AllNumbers P) :
    (Value.point t.center).AllNumbers P ∧ P t.radius.value ↔ ∀ a, Rescaled fields a → P a := by
  obtain ⟨hcenter, hradius⟩ := CenteredShape.ofDocument_eq_ok.mp h
  rw [readRadius_holds_iff hP hradius hv]
  exact and_iff_right (Point.ofValue_holds hP hcenter (hv.fieldOrNull "center"))

/-- What a reader of a kind makes of the radius in a value. -/
def ShapeKind.Rescales (kind : ShapeKind) (v : Value) (a : Float) : Prop :=
  kind ∈ ShapeKind.centered ∧ ∃ fields, v = .document fields ∧ Rescaled fields a

theorem read_holds {α : Type} {r : Except Fault (Option α)} {f : α → Value}
    (h : (r.map fun a => (a.map f).getD .null) = .ok s)
    (hf : ∀ a, r = .ok (some a) → (f a).AllNumbers P) : s.AllNumbers P := by
  by_cases hs : s = .null
  · subst hs
    exact Value.allNumbers_null
  · obtain ⟨a, ha, rfl⟩ := read_eq_ok h hs
    exact hf a ha

/-- **What holds of the doubles of a value holds of those of the shape that is read, exactly if it
holds of its radius in the metric of the shape**, where it has one. -/
theorem ShapeKind.decode_holds_iff (hP : Lasting P) (h : kind.decode v = .ok s)
    (hv : v.AllNumbers P) : s.AllNumbers P ↔ ∀ a, kind.Rescales v a → P a := by
  have hother : kind ∉ ShapeKind.centered → s.AllNumbers P →
      (s.AllNumbers P ↔ ∀ a, kind.Rescales v a → P a) := fun hkind hs =>
    iff_of_true hs fun a ha => absurd ha.1 hkind
  cases kind with
  | point => exact hother (by decide) (read_holds h fun p hp => Point.decode_holds hP hp hv)
  | box => exact hother (by decide) (read_holds h fun b hb => Box.decode_holds hP hb hv)
  | circle =>
    cases v with
    | null =>
      obtain rfl := Except.ok.inj h
      exact iff_of_true Value.allNumbers_null (by rintro a ⟨-, fields, ⟨⟩, -⟩)
    | document fields =>
      obtain ⟨c, hc, rfl⟩ := map_eq_ok.mp h
      obtain ⟨t, ht, rfl⟩ := map_eq_ok.mp hc
      refine Value.allNumbers_circle.trans ((CenteredShape.ofDocument_holds_iff hP ht hv).trans ?_)
      simp [Rescales, centered]
    | _ => cases h
  | sphere =>
    cases v with
    | null =>
      obtain rfl := Except.ok.inj h
      exact iff_of_true Value.allNumbers_null (by rintro a ⟨-, fields, ⟨⟩, -⟩)
    | document fields =>
      obtain ⟨c, hc, rfl⟩ := map_eq_ok.mp h
      obtain ⟨t, ht, rfl⟩ := map_eq_ok.mp hc
      refine Value.allNumbers_sphere.trans ((CenteredShape.ofDocument_holds_iff hP ht hv).trans ?_)
      simp [Rescales, centered]
    | _ => cases h
  | polygon => exact hother (by decide) (read_holds h fun q hq => Polygon.decode_holds hP hq hv)

/-- **The reader of GeoJSON** expresses no radius in a metric. -/
theorem decodeGeoJson_holds (hP : Lasting P) (h : decodeGeoJson v = .ok s) (hv : v.AllNumbers P) :
    s.AllNumbers P := by
  cases v with
  | null =>
    obtain rfl := Except.ok.inj h
    exact Value.allNumbers_null
  | document fields =>
    obtain ⟨g, rfl, hg⟩ := decodeGeoJson_document.mp h
    rw [Value.allNumbers_geoJson]
    rcases Geometry.decode_eq_ok.mp hg with ⟨-, p, hp, rfl⟩ | ⟨-, q, hq, rfl⟩
    · exact (Point.ofGeoJson_eq_ok.mp hp).holds hP fun _ _ hat => hat.throughout hv
    · exact Polygon.ofGeoJson_holds hP hq hv
  | _ => cases h

/-! ### The writers -/

@[simp] theorem Point.plain_allNumbers {p : Point} :
    p.plain.AllNumbers P ↔ (Value.point p).AllNumbers P := by
  simp [Point.plain]

@[simp] theorem Box.plain_allNumbers {b : Box} :
    b.plain.AllNumbers P ↔ (Value.box b).AllNumbers P := by
  simp [Box.plain]

@[simp] theorem CenteredShape.plain_allNumbers {t : CenteredShape} :
    t.plain.AllNumbers P ↔ (Value.point t.center).AllNumbers P ∧ P t.radius.value := by
  simp [CenteredShape.plain, Distance.plain]

@[simp] theorem Polygon.plain_allNumbers {q : Polygon} :
    q.plain.AllNumbers P ↔ (Value.polygon q).AllNumbers P := by
  simp [Polygon.plain]

/-- **The plain form of a shape has the doubles of the shape.** -/
theorem ShapeKind.Admits.plain_holds_iff {form : Value} (h : kind.Admits s)
    (hform : s.plain = .ok form) : form.AllNumbers P ↔ s.AllNumbers P := by
  cases h with
  | point p =>
    obtain rfl := Except.ok.inj hform
    exact Point.plain_allNumbers
  | box b =>
    obtain rfl := Except.ok.inj hform
    exact Box.plain_allNumbers
  | circle =>
    obtain rfl := Except.ok.inj hform
    exact CenteredShape.plain_allNumbers.trans Value.allNumbers_circle.symm
  | sphere =>
    obtain rfl := Except.ok.inj hform
    exact CenteredShape.plain_allNumbers.trans Value.allNumbers_sphere.symm
  | polygon =>
    obtain rfl := Except.ok.inj hform
    exact Polygon.plain_allNumbers

theorem CenteredShape.encode_holds (hP : Lasting P) {t : CenteredShape}
    (hcenter : (Value.point t.center).AllNumbers P) (hradius : P t.radius.value) :
    (Value.document t.encode).AllNumbers P := by
  have hpoint : (Value.document t.center.encode).AllNumbers P := Point.plain_allNumbers.mpr hcenter
  have hnormalized : P t.radius.normalized := hP.divided t.radius.metric hradius
  rw [Value.allNumbers_document, CenteredShape.encode]
  simp only [List.forall_mem_cons]
  exact ⟨hpoint, Value.allNumbers_float.mpr hnormalized, Value.allNumbers_text _, by simp⟩

/-- **The legacy document of a shape** has the doubles of the shape, but for a radius in radians. -/
theorem ShapeKind.encode_holds (hP : Lasting P) {d : Document} (h : kind.encode? s = some d)
    (hs : s.AllNumbers P) : (Value.document d).AllNumbers P := by
  unfold ShapeKind.encode? at h
  split at h
  · obtain rfl := Option.some.inj h
    exact Point.plain_allNumbers.mpr hs
  · obtain rfl := Option.some.inj h
    exact Box.plain_allNumbers.mpr hs
  · obtain rfl := Option.some.inj h
    obtain ⟨hcenter, hradius⟩ := Value.allNumbers_circle.mp hs
    exact CenteredShape.encode_holds hP hcenter hradius
  · obtain rfl := Option.some.inj h
    obtain ⟨hcenter, hradius⟩ := Value.allNumbers_sphere.mp hs
    exact CenteredShape.encode_holds hP hcenter hradius
  · obtain rfl := Option.some.inj h
    exact Polygon.plain_allNumbers.mpr hs
  · cases h

@[simp] theorem Point.pair_allNumbers {p : Point} :
    p.pair.AllNumbers P ↔ (Value.point p).AllNumbers P := by
  simp [Point.pair]

/-- The closed walk of a polygon has no points of its own. -/
theorem Polygon.mem_closed {shared : Sharing} {q : Polygon} {ring : List Point} {p : Point}
    (hring : q.closed shared = some ring) (hp : p ∈ ring) : p ∈ q.points := by
  unfold Polygon.closed at hring
  split at hring
  · cases hring
  · next first rest hpoints =>
    obtain rfl := Option.some.inj hring
    split at hp
    · exact hp
    · rcases List.mem_append.mp hp with hp | hp
      · exact hp
      · obtain rfl := List.mem_singleton.mp hp
        rw [hpoints]
        exact List.mem_cons_self

theorem geoJsonDocument_ring_holds {ring : List Point} (type : String)
    (h : ∀ p ∈ ring, (Value.point p).AllNumbers P) :
    (Value.document (geoJsonDocument type (ringCoordinates ring))).AllNumbers P := by
  simpa [geoJsonDocument, ringCoordinates] using h

/-- The GeoJSON document of a shape has the doubles of the shape: the corners of a ring around a
box take theirs from two of them. -/
theorem ShapeKind.Admits.geoJson_holds {shared : Sharing} {d : Document} (h : kind.Admits s)
    (hd : encodeGeoJson shared s = .ok (some d)) (hs : s.AllNumbers P) :
    (Value.document d).AllNumbers P := by
  cases h with
  | point p =>
    obtain rfl := Option.some.inj (Except.ok.inj hd)
    simpa [geoJsonDocument] using hs
  | box b =>
    obtain rfl := Option.some.inj (Except.ok.inj hd)
    refine geoJsonDocument_ring_holds _ ?_
    obtain ⟨hfirst, hsecond⟩ := Value.allNumbers_box.mp hs
    simp only [Value.allNumbers_point] at hfirst hsecond
    simp [Box.ring, hfirst, hsecond]
  | @polygon q hq =>
    obtain ⟨written, hwritten, hd⟩ := map_eq_ok.mp hd
    obtain rfl := Option.some.inj hd
    rw [encodeGeometry] at hwritten
    split at hwritten
    · next ring hring =>
      obtain rfl := Except.ok.inj hwritten
      refine geoJsonDocument_ring_holds _ fun p hp => ?_
      exact Value.allNumbers_polygon.mp hs p (Polygon.mem_closed hring hp)
    · cases hwritten
  | circle => cases hd
  | sphere => cases hd

/-- The arguments of a command have the doubles of the shape, but for a radius in radians. -/
theorem Value.arguments_holds (hP : Lasting P) {arguments : List Value}
    (h : s.arguments? = some arguments) (hs : s.AllNumbers P) :
    (Value.list arguments).AllNumbers P := by
  have hcentered : ∀ t : CenteredShape, (point t.center).AllNumbers P ∧ P t.radius.value →
      (list t.arguments).AllNumbers P := by
    rintro t ⟨hcenter, hradius⟩
    have hnormalized : P t.radius.normalized := hP.divided t.radius.metric hradius
    simpa [CenteredShape.arguments] using ⟨by simpa using hcenter, hnormalized⟩
  unfold Value.arguments? at h
  split at h
  · obtain rfl := Option.some.inj h
    simpa using hs
  · obtain rfl := Option.some.inj h
    exact hcentered _ (allNumbers_circle.mp hs)
  · obtain rfl := Option.some.inj h
    exact hcentered _ (allNumbers_sphere.mp hs)
  · obtain rfl := Option.some.inj h
    simpa using hs
  · cases h

end ShapeCodec
