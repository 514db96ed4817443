/-
# What a reader looks at

Whatever a reader looks at stands inside the value it was given: a field of a document, an item of
its coordinates, the two values that are read as the coordinates of a point. So what holds
throughout a value holds throughout all that is looked at.

Key theorems: `Value.Throughout.fieldOrNull`, `Value.Throughout.coordinate`,
`RingCoordinates.throughout`, `Coordinates.throughout`.
-/
import ShapeCodec.Proofs.Shape.Overflow
import ShapeCodec.Proofs.Value.Parts

namespace ShapeCodec

variable {Q : Value → Prop} {v x y : Value} {fields : Document}

theorem Value.Throughout.fieldOrNull (hnull : Value.null.Throughout Q)
    (h : (Value.document fields).Throughout Q) (name : String) :
    (ShapeCodec.fieldOrNull fields name).Throughout Q := by
  unfold ShapeCodec.fieldOrNull
  cases hfield : fields.lookup name with
  | none => exact hnull
  | some v => exact h.field hfield

/-- The items of the coordinates of a document. -/
theorem Value.Throughout.coordinate {items : List Value} (h : (Value.document fields).Throughout Q)
    (hitems : coordinateItems? fields = some items) : ∀ part ∈ items, part.Throughout Q := by
  obtain ⟨coordinates, hfield, hcoordinates⟩ := Option.bind_eq_some_iff.mp hitems
  intro part hpart
  exact (h.field hfield).item hcoordinates hpart

theorem PairOf.throughout (h : v.Throughout Q) (hat : PairOf v x y) :
    x.Throughout Q ∧ y.Throughout Q :=
  ⟨h.item hat (by simp), h.item hat (by simp)⟩

theorem FieldsOf.throughout (h : (Value.document fields).Throughout Q) (hat : FieldsOf fields x y) :
    x.Throughout Q ∧ y.Throughout Q := ⟨h.field hat.2.1, h.field hat.2.2⟩

theorem GeoJsonPairOf.throughout (h : (Value.document fields).Throughout Q)
    (hat : GeoJsonPairOf fields x y) : x.Throughout Q ∧ y.Throughout Q :=
  ⟨h.coordinate hat x (by simp), h.coordinate hat y (by simp)⟩

theorem RingCoordinates.throughout (h : v.Throughout Q) (hat : RingCoordinates v x y) :
    x.Throughout Q ∧ y.Throughout Q := by
  rcases hat with hpair | ⟨fields, rfl, hfields⟩
  · exact hpair.throughout h
  · exact hfields.throughout h

theorem Coordinates.throughout (h : v.Throughout Q) (hat : Coordinates v x y) :
    x.Throughout Q ∧ y.Throughout Q := by
  rcases hat with hpair | ⟨fields, rfl, hfields⟩
  · exact hpair.throughout h
  · split at hfields
    · exact hfields.throughout h
    · exact hfields.throughout h

end ShapeCodec
