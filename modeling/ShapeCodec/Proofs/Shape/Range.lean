/-
# Values in range

A value is in range if no whole number in it, at any depth, is past every double. Whatever a reader
looks at stands inside the value it was given, so that from a value in range no reader overflows. A
whole number in range is also short enough to be shown, and no fault is left but those a reader is
meant to fail with. Acceptance looks at every field whatever it thinks of the others, and does not
overflow on such a value either.

Key definitions: `Value.InRange`, `Verdict.Settled`.
Key theorems: `ShapeKind.decode_clean`, `decodeGeoJson_clean`, `ShapeKind.accept_settled`.
-/
import ShapeCodec.Proofs.Shape.Escape
import ShapeCodec.Proofs.Shape.Inside
import ShapeCodec.Proofs.Shape.Reading
import ShapeCodec.Shape.Kind

namespace ShapeCodec

variable {α β : Type}

/-- A value in which no whole number is past every double. -/
def Value.InRange (v : Value) : Prop := v.Throughout fun part => ¬ part.TooLarge

section
variable {v : Value} {fields : Document}

theorem Value.inRange_null : Value.null.InRange := by
  refine .intro ?_ nofun
  rintro ⟨n, ⟨⟩, -⟩

theorem Value.InRange.fieldOrNull (h : (Value.document fields).InRange) (name : String) :
    (fieldOrNull fields name).InRange := Value.Throughout.fieldOrNull Value.inRange_null h name

/-- The items of the coordinates of a document. -/
theorem Value.InRange.coordinate {items : List Value} (h : (Value.document fields).InRange)
    (hitems : coordinateItems? fields = some items) : ∀ part ∈ items, part.InRange :=
  Value.Throughout.coordinate h hitems

end

/-! ### The readers -/

section
variable {v : Value} {fields : Document}

/-- Two coordinates in range are not too large. -/
theorem not_tooLargeAt {at? : Value → Value → Prop}
    (h : ∀ x y, at? x y → x.InRange ∧ y.InRange) : ¬ TooLargeAt at? := by
  rintro ⟨x, y, hat, hlarge⟩
  obtain ⟨hx, hy⟩ := h x y hat
  rcases hlarge with hlarge | hlarge
  · exact hx.here hlarge
  · exact hy.here hlarge

theorem Point.not_outOfRange (h : v.InRange) : ¬ Point.OutOfRange v :=
  not_tooLargeAt fun _ _ hat => hat.throughout h

theorem not_geoJsonRingOutOfRange (h : (Value.document fields).InRange) :
    ¬ GeoJsonRingOutOfRange fields := by
  rintro ⟨ring, others, elements, hitems, helements, hring⟩
  have hringRange : ring.InRange := h.coordinate hitems ring List.mem_cons_self
  refine not_reaches (fun u hu => ?_) hring
  exact not_tooLargeAt fun _ _ hat => hat.throughout (hringRange.item helements hu)

theorem Polygon.not_outOfRange (h : v.InRange) : ¬ Polygon.OutOfRange v := by
  rintro ⟨fields, rfl, hout⟩
  split at hout
  · exact not_geoJsonRingOutOfRange h hout
  · obtain ⟨row, elements, hfield, hitems, hrow⟩ := hout
    refine not_reaches (fun u hu => ?_) hrow
    exact Point.not_outOfRange ((h.field hfield).item hitems hu)

theorem Box.not_outOfRange (h : v.InRange) : ¬ Box.OutOfRange v := by
  rintro ⟨fields, rfl, hout⟩
  split at hout
  · exact not_geoJsonRingOutOfRange h hout
  · rcases hout with hfirst | ⟨-, hsecond⟩
    · exact Point.not_outOfRange (h.fieldOrNull "first") hfirst
    · exact Point.not_outOfRange (h.fieldOrNull "second") hsecond

theorem CenteredShape.not_outOfRange (h : v.InRange) : ¬ CenteredShape.OutOfRange v := by
  rintro ⟨fields, rfl, -, hradius | ⟨-, -, hcenter⟩⟩
  · exact (h.fieldOrNull "radius").here hradius
  · exact Point.not_outOfRange (h.fieldOrNull "center") hcenter

theorem Geometry.not_outOfRange (h : v.InRange) : ¬ Geometry.OutOfRange v := by
  rintro ⟨fields, type, rfl, -, ⟨-, hpoint⟩ | ⟨-, hring⟩⟩
  · exact not_tooLargeAt (fun _ _ hat => hat.throughout h) hpoint
  · exact not_geoJsonRingOutOfRange h hring

/-- A whole number with too many digits is past every double. -/
theorem overflowBound_le {n : Nat} (h : digitLimit < digitCount n) : overflowBound ≤ n := by
  have hbound : overflowBound ≤ 10 ^ digitLimit := by decide +kernel
  exact hbound.trans (digitLimit_lt_iff.mp h)

/-- What is shown of a value in range stops at no whole number. -/
theorem Value.StopsAt.of_inRange {e : Fault} (h : v.StopsAt e) (hv : v.InRange) :
    e.IsUnusableArgument := by
  induction h with
  | here hobstructed =>
    cases hobstructed with
    | digits hdigits => exact absurd ⟨_, rfl, overflowBound_le hdigits⟩ hv.here
    | untyped htype => exact Value.geoJsonType_fault htype
  | inside _ hparts _ _ ih => exact ih (hv.inside _ (by simp [hparts]))

theorem CenteredShape.not_metricUnshown (h : v.InRange) : ¬ CenteredShape.MetricUnshown v := by
  rintro ⟨name, ⟨fields, rfl, -, -, hname, -⟩, hstops⟩
  exact hstops.of_inRange (h.field hname)

theorem Geometry.not_typeUnshown (h : v.InRange) : ¬ Geometry.TypeUnshown v := by
  rintro ⟨fields, type, rfl, htype, hstops⟩
  exact hstops.of_inRange (h.field htype)

/-- **From a value in range the readers of shapes fail only as they are meant to.** -/
theorem ShapeKind.decode_clean (kind : ShapeKind) (h : v.InRange) : Clean (kind.decode v) := by
  have hmap : ∀ {α : Type} {r : Except Fault α} {k : α → Value}, Clean r → Clean (r.map k) :=
    fun hr => FailsOnly.map hr _
  have hcentered : ¬ (CenteredShape.OutOfRange v ∨ CenteredShape.MetricUnshown v) :=
    not_or.mpr ⟨CenteredShape.not_outOfRange h, CenteredShape.not_metricUnshown h⟩
  cases kind with
  | point => exact hmap ((Point.decode_reads v).toFails.clean_iff.mpr (Point.not_outOfRange h))
  | box => exact hmap ((Box.decode_fails v).clean_iff.mpr (Box.not_outOfRange h))
  | circle => exact hmap ((Circle.decode_escapes v).clean_iff.mpr hcentered)
  | sphere => exact hmap ((Sphere.decode_escapes v).clean_iff.mpr hcentered)
  | polygon => exact hmap ((Polygon.decode_fails v).clean_iff.mpr (Polygon.not_outOfRange h))

/-- **So does the reader of GeoJSON.** -/
theorem decodeGeoJson_clean (h : v.InRange) : Clean (decodeGeoJson v) :=
  (decodeGeoJson_escapes v).clean_iff.mpr
    (not_or.mpr ⟨Geometry.not_outOfRange h, Geometry.not_typeUnshown h⟩)

end

/-! ### Acceptance -/

/-- A verdict that is no overflow. -/
def Verdict.Settled (r : Verdict α) : Prop := r ≠ .overflow

namespace Verdict

variable {r : Verdict α} {s : Verdict β}

theorem Settled.accepted (a : α) : (accepted a).Settled := nofun

theorem Settled.refused (complaints : List Complaint) :
    (refused complaints : Verdict α).Settled := nofun

theorem Settled.refuse (problem : Problem) : (refuse problem : Verdict α).Settled := nofun

theorem Settled.within (h : r.Settled) (place : String) : (r.within place).Settled := by
  cases r with
  | overflow => exact absurd rfl h
  | _ => nofun

theorem Settled.map (h : r.Settled) (f : α → β) : (r.map f).Settled := by
  cases r with
  | overflow => exact absurd rfl h
  | _ => nofun

theorem Settled.andThen {f : α → Verdict β} (h : r.Settled) (hf : ∀ a, (f a).Settled) :
    (r.andThen f).Settled := by
  cases r with
  | accepted a => exact hf a
  | refused complaints => nofun
  | overflow => exact absurd rfl h

theorem Settled.both (h : r.Settled) (hs : s.Settled) : (r.both s).Settled := by
  cases r with
  | overflow => exact absurd rfl h
  | accepted a | refused complaints =>
    cases s with
    | overflow => exact absurd rfl hs
    | _ => nofun

end Verdict

section
variable {v : Value} {fields : Document}

theorem acceptField_settled {name : String} {accept : Value → Verdict α}
    (h : (Value.document fields).InRange) (haccept : ∀ w : Value, w.InRange → (accept w).Settled) :
    (acceptField fields name accept).Settled := by
  unfold acceptField
  split
  · next w hfield => exact (haccept w (h.field hfield)).within name
  · exact .refused _

theorem Value.acceptNumber_settled (h : v.InRange) : v.acceptNumber.Settled :=
  mt v.acceptNumber_judges.overflow_iff.mp h.here

theorem Point.accept_settled (h : v.InRange) : (Point.accept v).Settled := by
  unfold Point.accept
  split
  · exact .accepted _
  · exact ((acceptField_settled h fun _ => Value.acceptNumber_settled).both
      (acceptField_settled h fun _ => Value.acceptNumber_settled)).map _
  · exact .refuse _

theorem Box.accept_settled (h : v.InRange) : (Box.accept v).Settled := by
  unfold Box.accept
  split
  · exact .accepted _
  · exact ((acceptField_settled h fun _ => Point.accept_settled).both
      (acceptField_settled h fun _ => Point.accept_settled)).map _
  · exact .refuse _

theorem Metric.accept_settled (v : Value) : (Metric.accept v).Settled := by
  unfold Metric.accept
  split
  · exact .accepted _
  · exact .refuse _

theorem Metric.acceptOptional_settled (fields : Document) :
    (Metric.acceptOptional fields).Settled := by
  unfold Metric.acceptOptional
  split
  · exact (Metric.accept_settled _).within "metric"
  · exact .accepted _

theorem Distance.accept_settled (h : v.InRange) : (Distance.accept v).Settled := by
  unfold Distance.accept
  split
  · exact .accepted _
  · exact ((acceptField_settled h fun _ => Value.acceptNumber_settled).both
      (Metric.acceptOptional_settled _)).map _
  · exact .refuse _

theorem Distance.asRadius_settled (d : Distance) : d.asRadius.Settled := by
  unfold Distance.asRadius
  split
  · exact .refuse _
  · exact .accepted _

theorem Distance.ofNumber_settled (h : v.InRange) : (Distance.ofNumber v).Settled :=
  ((Value.acceptNumber_settled h).within "value").map _

theorem Distance.acceptRadius_settled (h : v.InRange) : (Distance.acceptRadius v).Settled := by
  unfold Distance.acceptRadius
  split
  · exact (Distance.ofNumber_settled h).andThen Distance.asRadius_settled
  · exact (Distance.ofNumber_settled h).andThen Distance.asRadius_settled
  · exact (Distance.accept_settled h).andThen Distance.asRadius_settled

theorem CenteredShape.acceptFields_settled (h : (Value.document fields).InRange) :
    (CenteredShape.acceptFields fields).Settled :=
  ((acceptField_settled h fun _ => Point.accept_settled).both
    (acceptField_settled h fun _ => Distance.acceptRadius_settled)).map _

/-- What a value yields as a row is in range with it: the items of a list or a tuple, and the
parts of a shape, which are no points. -/
theorem Value.row?_settled {elements : List Value} (h : v.InRange) (hrow : v.row? = some elements) :
    ∀ u ∈ elements, (Point.accept u).Settled := by
  have hnamed : ∀ name part, (Point.accept (Value.named name part)).Settled := fun _ _ => .refuse _
  intro u hu
  cases v with
  | list items | tuple items =>
    obtain rfl := Option.some.inj hrow
    exact Point.accept_settled (h.inside u hu)
  | point | box | distance | circle | sphere | geoCommand =>
    obtain rfl := Option.some.inj hrow
    rcases List.mem_pair.mp hu with rfl | rfl
    · exact hnamed _ _
    · exact hnamed _ _
  | polygon | geoJson =>
    obtain rfl := Option.some.inj hrow
    obtain rfl := List.mem_singleton.mp hu
    exact hnamed _ _
  | _ => cases hrow

/-- A row of points that are all settled is counted to its end. -/
theorem acceptPoints_settled {elements : List Value}
    (h : ∀ u ∈ elements, (Point.accept u).Settled) (position : Nat) :
    ∃ counted, acceptPoints position elements = some counted := by
  induction elements generalizing position with
  | nil => exact ⟨([], []), rfl⟩
  | cons u rest ih =>
    obtain ⟨hu, hrest⟩ := List.forall_mem_cons.mp h
    obtain ⟨counted, hcounted⟩ := ih hrest (position + 1)
    have hplaced : ((Point.accept u).within (toString position)).Settled := hu.within _
    rw [acceptPoints, hcounted]
    cases hverdict : (Point.accept u).within (toString position) with
    | accepted p => exact ⟨_, rfl⟩
    | refused complaints => exact ⟨_, rfl⟩
    | overflow => exact absurd hverdict hplaced

theorem Polygon.accept_settled (h : v.InRange) : (Polygon.accept v).Settled := by
  unfold Polygon.accept
  split
  · exact .accepted _
  · refine acceptField_settled h fun w hw => ?_
    split
    · next elements hrow =>
      obtain ⟨counted, hcounted⟩ := acceptPoints_settled (Value.row?_settled hw hrow) 0
      unfold Polygon.acceptElements
      rw [hcounted]
      simp only
      split
      · exact .refused _
      · split
        · exact .accepted _
        · exact .refused _
    · exact .refuse _
  · exact .refuse _

/-- **A value in range is accepted or refused.** -/
theorem ShapeKind.accept_settled (kind : ShapeKind) (h : v.InRange) : (kind.accept v).Settled := by
  cases kind with
  | point => exact (Point.accept_settled h).map _
  | box => exact (Box.accept_settled h).map _
  | circle =>
    refine Verdict.Settled.map ?_ _
    unfold Circle.accept
    split
    · exact .accepted _
    · exact (CenteredShape.acceptFields_settled h).map _
    · exact .refuse _
  | sphere =>
    refine Verdict.Settled.map ?_ _
    unfold Sphere.accept
    split
    · exact .accepted _
    · exact (CenteredShape.acceptFields_settled h).map _
    · exact .refuse _
  | polygon => exact (Polygon.accept_settled h).map _

end

end ShapeCodec
