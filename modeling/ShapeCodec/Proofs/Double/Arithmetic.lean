/-
# What the codec needs of arithmetic on doubles

Radii are divided by the multiplier of a metric and multiplied by one. Two laws of doubles are all
that the round trips rest on: dividing by one changes nothing, not a signed zero, an infinity or
what is no number either (`Double.div_one`), and a value that is not below zero does not get
there when it is divided or multiplied by a number above zero (`Double.div_not_lt`,
`Double.mul_not_lt`), since the sign of the result is that of the value.

Key definitions: `Double.Below`.
Key theorems: `Double.div_one`, `Double.div_not_lt`, `Double.mul_not_lt`,
`Metric.multiplier_pos`.
-/
import ShapeCodec.Metric
import ShapeCodec.Proofs.Double.Rounding

namespace ShapeCodec
namespace Double

open Float.Model (Format UnpackedFloat)
open Float.Model.UnpackedFloat (Sign Accuracy)

/-! ### Signs -/

/-- Whether a double with these parts is below zero. -/
def Below : UnpackedFloat → Prop
  | .infinity .negative => True
  | .finite .negative .. => True
  | _ => False

theorem unpacked_zero : unpacked 0 = .zero .positive := by
  have h : (0 : Float) = ofUnpacked (.zero .positive) := by decide +kernel
  rw [h, unpacked_ofUnpacked]
  exact UnpackedFloat.unpack_packedZero

theorem lt_zero_iff (x : Float) : x < 0 ↔ Below (unpacked x) := by
  change decide ((UnpackedFloat.lt (unpacked x) (unpacked 0)) = true) = true ↔ _
  rw [unpacked_zero]
  rcases unpacked x with (_ | _) | _ | _ | (_ | _) <;>
    simp [UnpackedFloat.lt, UnpackedFloat.compare, Below]

theorem not_below_unpack (e : BitVec Format.binary64.exponentBits)
    (m : BitVec Format.binary64.mantissaBitsWithoutImplicit) :
    ¬ Below (UnpackedFloat.unpack Format.binary64
      (UnpackedFloat.packComponents Format.binary64 .positive e m)) := by
  unfold UnpackedFloat.unpack
  simp only [UnpackedFloat.unpackSign_packComponents, UnpackedFloat.Sign.ofBitVec_toBitVec]
  split
  · split <;> exact id
  · split
    · split <;> exact id
    · exact id

/-- Putting together does not make a number fall below zero. -/
theorem not_below_ofUnpacked {u : UnpackedFloat} (h : ¬ Below u) : ¬ Below (unpacked (ofUnpacked u)) := by
  rw [unpacked_ofUnpacked]
  rcases u with (_ | _) | _ | s | (_ | _)
  · exact absurd trivial h
  · exact not_below_unpack _ _
  · exact not_below_unpack _ _
  · rw [UnpackedFloat.pack, UnpackedFloat.unpack_packedZero]
    exact id
  · exact absurd trivial h
  · rw [UnpackedFloat.pack]
    split
    · exact not_below_unpack _ _
    · split
      · exact not_below_unpack _ _
      · exact not_below_unpack _ _

/-! ### Quotients and products -/

theorem above_zero {c : Float} (hc : 0 < c) :
    unpacked c = .infinity .positive ∨ ∃ m e h, unpacked c = .finite .positive m e h := by
  have h : UnpackedFloat.lt (unpacked 0) (unpacked c) = true := of_decide_eq_true hc
  rw [unpacked_zero] at h
  rcases hu : unpacked c with (_ | _) | _ | _ | ⟨_ | _, m, e, hm⟩ <;> rw [hu] at h
  · cases h
  · exact Or.inl rfl
  · cases h
  · cases h
  · cases h
  · exact Or.inr ⟨m, e, hm, rfl⟩

theorem not_below_round {M : ℕ} {E : ℤ} {acc : Accuracy} :
    ¬ Below (UnpackedFloat.roundWithAccuracy Format.binary64 .positive M E acc) := by
  unfold UnpackedFloat.roundWithAccuracy
  simp only
  split <;> exact id

/-- Dividing by a positive number does not lead below zero. -/
theorem div_not_lt {x c : Float} (hx : ¬ x < 0) (hc : 0 < c) : ¬ x / c < 0 := by
  rw [lt_zero_iff] at hx ⊢
  refine not_below_ofUnpacked (u := UnpackedFloat.div Format.binary64 (unpacked x) (unpacked c)) ?_
  generalize unpacked x = u at hx ⊢
  rcases above_zero hc with h | ⟨m, e, hm, h⟩ <;> rw [h] <;> rcases u with (_ | _) | _ | _ | (_ | _)
  all_goals first | exact absurd trivial hx | exact id | exact not_below_round

/-- Multiplying by a positive number does not lead below zero. -/
theorem mul_not_lt {x c : Float} (hx : ¬ x < 0) (hc : 0 < c) : ¬ x * c < 0 := by
  rw [lt_zero_iff] at hx ⊢
  refine not_below_ofUnpacked (u := UnpackedFloat.mul Format.binary64 (unpacked x) (unpacked c)) ?_
  generalize unpacked x = u at hx ⊢
  rcases above_zero hc with h | ⟨m, e, hm, h⟩ <;> rw [h] <;> rcases u with (_ | _) | _ | _ | (_ | _)
  all_goals first | exact absurd trivial hx | exact id | exact not_below_round

/-! ### Dividing by one -/

theorem canonical_one : Canonical (2 ^ 52) (-52) := by
  constructor <;> norm_num

theorem unpacked_one : unpacked 1.0 = .finite .positive (2 ^ 52) (-52) canonical_one.pos := by
  have h : (1.0 : Float) = ofUnpacked (.finite .positive (2 ^ 52) (-52) canonical_one.pos) := by
    decide +kernel
  rw [h, unpacked_ofUnpacked_finite canonical_one]

/-- **Dividing by one changes nothing.** -/
theorem div_one (x : Float) : x / 1.0 = x := by
  change ofUnpacked (UnpackedFloat.div Format.binary64 (unpacked x) (unpacked 1.0)) = x
  rw [unpacked_one]
  conv_rhs => rw [← ofUnpacked_unpacked x]
  congr 1
  generalize hu : unpacked x = u
  rcases u with (_ | _) | _ | (_ | _) | ⟨s, m, e, hm⟩ <;> try rfl
  have hc : Canonical m e := canonical_of_unpacked hu
  rw [div_of_holds (n := false) hc]
  · cases s <;> rfl
  · convert holds_self (b := ⟨false, m, e⟩) hc.pos using 1
    norm_num

end Double

theorem Metric.multiplier_pos (m : Metric) : 0 < m.multiplier := by
  cases m <;> decide +kernel

end ShapeCodec
