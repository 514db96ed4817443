/-
# Decimals read as doubles

A decimal that lies in the cell of a double is read as that double. The magnitude is that of a
product or a quotient of the digits and a power of ten, of which each is a double on the short
way, and a whole number of any size on the long way; in either case the operation rounds once,
and the number in the cell is rounded to the double. The bounds past which a decimal is answered
without its power of ten lie outside all cells.

Key definitions: `Double.tenParts`, `Double.tenDouble`, `Double.signOf`.
Key theorems: `Double.ofScientific_rounds`, `Double.floatOfDecimal_of_holds`.
-/
import ShapeCodec.Number.Spelling
import ShapeCodec.Proofs.Double.Rounding

namespace ShapeCodec
namespace Double

open Float.Model (Format UnpackedFloat totalExponent)
open Float.Model.UnpackedFloat (Sign Accuracy)

variable {m : ℕ} {e : ℤ} {n : Bool}

/-! ### Whole numbers -/

/-- A whole number of at most 53 bits, with its leading bit in the 53rd place. -/
theorem canonical_shift {k : ℕ} (hpos : 0 < k) (hlt : k < 2 ^ 53) :
    Canonical (k <<< (52 - k.log2)) ((k.log2 : ℤ) - 52) ∧ 2 ^ 52 ≤ k <<< (52 - k.log2) := by
  have hlog : k.log2 < 53 := (Nat.log2_lt hpos.ne').mpr hlt
  have hlow : 2 ^ 52 ≤ k <<< (52 - k.log2) := by
    rw [Nat.shiftLeft_eq]
    calc 2 ^ 52 = 2 ^ k.log2 * 2 ^ (52 - k.log2) := by rw [← pow_add]; congr 1; omega
      _ ≤ k * 2 ^ (52 - k.log2) := Nat.mul_le_mul_right _ (Nat.log2_self_le hpos.ne')
  have hhigh : k <<< (52 - k.log2) < 2 ^ 53 := by
    rw [Nat.shiftLeft_eq]
    calc k * 2 ^ (52 - k.log2) < 2 ^ (k.log2 + 1) * 2 ^ (52 - k.log2) :=
          Nat.mul_lt_mul_of_pos_right Nat.lt_log2_self (by positivity)
      _ = 2 ^ 53 := by rw [← pow_add]; congr 1; omega
  refine ⟨⟨by omega, hhigh, ?_, ?_, Or.inl hlow⟩, hlow⟩ <;> omega

theorem shift_value {k : ℕ} (hlt : k.log2 < 53) :
    ((k <<< (52 - k.log2) : ℕ) : ℚ) * 2 ^ ((k.log2 : ℤ) - 52) = k := by
  rw [Nat.shiftLeft_eq]
  push_cast
  rw [mul_assoc, ← zpow_natCast, ← zpow_add₀ (by norm_num), Nat.cast_sub (by omega)]
  norm_num

/-- A whole number of at most 53 bits is a double. -/
theorem unpacked_toFloat {k : ℕ} (hpos : 0 < k) (hlt : k < 2 ^ 53) :
    unpacked k.toUInt64.toFloat =
      .finite .positive (k <<< (52 - k.log2)) ((k.log2 : ℤ) - 52) (canonical_shift hpos hlt).1.pos := by
  obtain ⟨hc, hlow⟩ := canonical_shift hpos hlt
  have hlog : k.log2 < 53 := (Nat.log2_lt hpos.ne').mpr hlt
  have hk : k.toUInt64.toNat = k := by
    rw [Nat.toUInt64_eq, UInt64.toNat_ofNat']
    omega
  have htarget : Format.binary64.targetExponent (totalExponent k 0) = (k.log2 : ℤ) - 52 := by
    rw [target_eq]
    omega
  have hround : UnpackedFloat.ofUInt64 Format.binary64 k.toUInt64 =
      .finite .positive (k <<< (52 - k.log2)) ((k.log2 : ℤ) - 52) hc.pos := by
    have hcmp : compare (k : ℤ) 0 = .gt := by
      rw [compare_gt_iff_gt]
      exact_mod_cast hpos
    unfold UnpackedFloat.ofUInt64 UnpackedFloat.ofNat UnpackedFloat.ofInt UnpackedFloat.normalize
    rw [hk, hcmp]
    simp only [UnpackedFloat.round, Int.toNat_natCast, htarget, UnpackedFloat.decreaseExponent]
    rw [show (0 - ((k.log2 : ℤ) - 52)).toNat = 52 - k.log2 by omega,
      show (0 : ℤ) - (52 - k.log2 : ℕ) = (k.log2 : ℤ) - 52 by omega]
    refine round_of_holds hc (marks_exact _) ?_ (n := false) (holds_self (b := ⟨false, _, _⟩) hc.pos)
    have := (Nat.le_log2 (by omega)).mpr hlow
    omega
  show unpacked (ofUnpacked (UnpackedFloat.ofUInt64 Format.binary64 k.toUInt64)) = _
  rw [hround, unpacked_ofUnpacked_finite hc]

/-! ### Powers of ten -/

/-- The mantissa and the exponent of a power of ten that is a double. -/
def tenParts (k : ℕ) : ℕ × ℤ :=
  (10 ^ k * 2 ^ (52 - (10 ^ k).log2) / 2 ^ ((10 ^ k).log2 - 52), ((10 ^ k).log2 : ℤ) - 52)

theorem tenParts_exact : ∀ k < 23,
    (tenParts k).1 * 2 ^ ((10 ^ k).log2 - 52) = 10 ^ k * 2 ^ (52 - (10 ^ k).log2) ∧
    2 ^ 52 ≤ (tenParts k).1 := by
  decide +kernel

/-- A power of ten from the table of those that are doubles. -/
def tenDouble (k : ℕ) (hk : k < 23) : Float := getElem Float.exactlyRepresentablePowersOfTen k hk

theorem tenParts_table : ∀ k : Fin 23,
    Parts.ofFloat (tenDouble k.val k.isLt) =
      .finite ⟨false, (tenParts k).1, (tenParts k).2⟩ := by
  decide +kernel

theorem tenParts_value {k : ℕ} (hk : k < 23) :
    ((tenParts k).1 : ℚ) * 2 ^ (tenParts k).2 = 10 ^ k := by
  have hexact : ((tenParts k).1 : ℚ) * 2 ^ ((10 ^ k).log2 - 52) = 10 ^ k * 2 ^ (52 - (10 ^ k).log2) := by
    exact_mod_cast (tenParts_exact k hk).1
  have hsplit : (2 : ℚ) ^ (tenParts k).2 = 2 ^ ((10 ^ k).log2 - 52) / 2 ^ (52 - (10 ^ k).log2) := by
    rw [← zpow_natCast, ← zpow_natCast, ← zpow_sub₀ (by norm_num)]
    congr 1
    simp only [tenParts]
    omega
  rw [hsplit, ← mul_div_assoc, hexact]
  field_simp

/-- The powers of ten up to the 22nd are doubles. -/
theorem unpacked_ten {k : ℕ} (hk : k < 23) :
    ∃ h, unpacked (tenDouble k hk) =
      .finite .positive (tenParts k).1 (tenParts k).2 h := by
  have hpos : 0 < (tenParts k).1 := by
    have h52 := (tenParts_exact k hk).2
    omega
  exact ⟨hpos, unpacked_of_parts hpos (tenParts_table ⟨k, hk⟩)⟩

/-! ### The range of cells -/

theorem near_quotient_of_holds (hc : Canonical m e) {v : ℚ} (h : (Binary.cell ⟨n, m, e⟩).Holds v) :
    Near m (v / 2 ^ e) := by
  refine near_of_holds (b := ⟨n, m, e⟩) hc.pos ?_
  rwa [div_mul_cancel₀ _ (two_zpow_pos e).ne']

/-- No cell reaches below half of the least double. -/
theorem least_of_holds (hc : Canonical m e) {v : ℚ} (h : (Binary.cell ⟨n, m, e⟩).Holds v) :
    2 ^ (-1075 : ℤ) ≤ v := by
  obtain ⟨hlow, -, -⟩ := near_quotient_of_holds hc h
  have hm : (1 : ℚ) ≤ m := by exact_mod_cast hc.pos
  have hv : 1 / 2 * 2 ^ e ≤ v := by
    rw [le_div_iff₀ (two_zpow_pos e)] at hlow
    have := two_zpow_pos e
    nlinarith
  calc (2 : ℚ) ^ (-1075 : ℤ) ≤ 2 ^ (e - 1) :=
        zpow_le_zpow_right₀ (by norm_num) (by have := hc.least; omega)
    _ = 1 / 2 * 2 ^ e := by rw [zpow_sub₀ (by norm_num)]; ring
    _ ≤ v := hv

/-- No cell reaches above the number at which doubles end. -/
theorem greatest_of_holds (hc : Canonical m e) {v : ℚ} (h : (Binary.cell ⟨n, m, e⟩).Holds v) :
    v ≤ 2 ^ (1024 : ℤ) := by
  obtain ⟨-, hhigh, -⟩ := near_quotient_of_holds hc h
  have hm : (m : ℚ) + 1 ≤ 2 ^ 53 := by exact_mod_cast hc.lt
  rw [div_le_iff₀ (two_zpow_pos e)] at hhigh
  calc v ≤ (m + 1 / 2) * 2 ^ e := hhigh
    _ ≤ 2 ^ (53 : ℤ) * 2 ^ (971 : ℤ) :=
        mul_le_mul (by norm_num at hm ⊢; linarith)
          (zpow_le_zpow_right₀ (by norm_num) hc.greatest) (two_zpow_pos e).le (two_zpow_pos 53).le
    _ = 2 ^ (1024 : ℤ) := by rw [← zpow_add₀ (by norm_num)]; rfl

/-! ### Decimals -/

variable {D : ℕ} {E : ℤ}

theorem digits_pos_of_holds (hc : Canonical m e)
    (h : (Binary.cell ⟨n, m, e⟩).Holds (D * 10 ^ E)) : 0 < D := by
  rcases Nat.eq_zero_or_pos D with rfl | hpos
  · have hleast := least_of_holds hc h
    rw [Nat.cast_zero, zero_mul] at hleast
    exact absurd hleast (two_zpow_pos (-1075)).not_ge
  · exact hpos

theorem ten_zpow_le_two {k : ℤ} (hk : k ≤ 0) : (10 : ℚ) ^ k ≤ 2 ^ k := by
  obtain ⟨j, rfl⟩ : ∃ j : ℕ, k = -j := ⟨k.natAbs, by omega⟩
  rw [zpow_neg, zpow_neg, zpow_natCast, zpow_natCast]
  exact inv_anti₀ (by positivity) (pow_le_pow_left₀ (by norm_num) (by norm_num) j)

/-- The power of ten is not so small that the digits cannot make up for it. -/
theorem exponent_ge_of_holds (hc : Canonical m e)
    (h : (Binary.cell ⟨n, m, e⟩).Holds (D * 10 ^ E)) : -(2048 + (D.log2 : ℤ)) ≤ E := by
  by_contra hlt
  have hD : (D : ℚ) < 2 ^ ((D.log2 : ℤ) + 1) := by
    exact_mod_cast (Nat.lt_log2_self : D < 2 ^ (D.log2 + 1))
  have hval : (D : ℚ) * 10 ^ E < 2 ^ (-1075 : ℤ) := by
    calc (D : ℚ) * 10 ^ E ≤ D * 2 ^ E :=
          mul_le_mul_of_nonneg_left (ten_zpow_le_two (by omega)) (Nat.cast_nonneg D)
      _ < 2 ^ ((D.log2 : ℤ) + 1) * 2 ^ E := mul_lt_mul_of_pos_right hD (two_zpow_pos E)
      _ = 2 ^ ((D.log2 : ℤ) + 1 + E) := (zpow_add₀ (by norm_num) _ _).symm
      _ ≤ 2 ^ (-1075 : ℤ) := zpow_le_zpow_right₀ (by norm_num) (by omega)
  exact absurd (least_of_holds hc h) hval.not_ge

/-- The long way: the digits and the power of ten are whole numbers of any size. -/
theorem ofScientific_long (hD : 0 < D) (hlow : -(2048 + (D.log2 : ℤ)) ≤ E) (hE : E ≤ 2048) :
    Rounds (UnpackedFloat.ofScientific Format.binary64 D E) .positive (D * 10 ^ E) := by
  have hbits : (2 : ℤ) ^ Format.binary64.exponentBits = 2048 := rfl
  unfold UnpackedFloat.ofScientific
  rw [dif_neg hD.ne', hbits, if_neg (by omega), if_neg (by omega)]
  split
  · next h0 =>
    have hshift : ((D <<< 53 : ℕ) : ℚ) * 2 ^ (-53 : ℤ) = D := by
      rw [Nat.shiftLeft_eq]
      push_cast
      rw [mul_assoc, zpow_neg]
      norm_num
    have hlog : 52 ≤ (D <<< 53 * 10 ^ E.toNat).log2 := by
      rw [Nat.shiftLeft_eq]
      have hshifted : 2 ^ 52 ≤ D * 2 ^ 53 := by omega
      have hten : 0 < 10 ^ E.toNat := by positivity
      exact (Nat.le_log2 (by positivity)).mpr (hshifted.trans (Nat.le_mul_of_pos_right _ hten))
    have hvalue : (D : ℚ) * (10 : ℚ) ^ E =
        (D <<< 53 : ℕ) * 2 ^ (-53 : ℤ) * ((10 ^ E.toNat : ℕ) * 2 ^ (0 : ℤ)) := by
      rw [hshift, zpow_zero, mul_one]
      push_cast
      rw [← zpow_natCast, Int.toNat_of_nonneg h0]
    rw [hvalue]
    exact mul_rounds _ _ hlog
  · next h0 =>
    have hvalue : (D : ℚ) * (10 : ℚ) ^ E =
        D * 2 ^ (0 : ℤ) / ((10 ^ (-E).toNat : ℕ) * 2 ^ (0 : ℤ)) := by
      rw [zpow_zero, mul_one, mul_one]
      push_cast
      rw [← zpow_natCast, Int.toNat_of_nonneg (by omega), zpow_neg, div_inv_eq_mul]
    rw [hvalue]
    exact div_rounds _ _

/-- The short way: the digits and the power of ten are doubles themselves. -/
theorem ofScientific_short (hpos : 0 < D) (hD : D < 2 ^ 53) (hE : E.natAbs < 23) :
    ∃ u, (if E < 0 then D.toUInt64.toFloat / tenDouble E.natAbs hE
      else D.toUInt64.toFloat * tenDouble E.natAbs hE) = ofUnpacked u ∧
      Rounds u .positive (D * 10 ^ E) := by
  have hlog : D.log2 < 53 := (Nat.log2_lt hpos.ne').mpr hD
  obtain ⟨hp, hten⟩ := unpacked_ten hE
  have hdigits := unpacked_toFloat hpos hD
  have hvalue := shift_value hlog
  have htenv := tenParts_value hE
  split
  · next hneg =>
    have hpower : (10 : ℚ) ^ E = (10 ^ E.natAbs)⁻¹ := by
      conv_lhs => rw [show E = -(E.natAbs : ℤ) by omega]
      rw [zpow_neg, zpow_natCast]
    refine ⟨UnpackedFloat.div Format.binary64 (unpacked D.toUInt64.toFloat)
      (unpacked (tenDouble E.natAbs hE)), rfl, ?_⟩
    rw [hdigits, hten, hpower, ← div_eq_mul_inv, ← hvalue, ← htenv]
    exact div_rounds _ _
  · next hneg =>
    have hpower : (10 : ℚ) ^ E = 10 ^ E.natAbs := by
      conv_lhs => rw [show E = (E.natAbs : ℤ) by omega]
      rw [zpow_natCast]
    refine ⟨UnpackedFloat.mul Format.binary64 (unpacked D.toUInt64.toFloat)
      (unpacked (tenDouble E.natAbs hE)), rfl, ?_⟩
    rw [hdigits, hten, hpower, ← hvalue, ← htenv]
    have hfull := (canonical_shift hpos hD).2
    have hlog : 52 ≤ (D <<< (52 - D.log2) * (tenParts E.natAbs).1).log2 :=
      (Nat.le_log2 (Nat.mul_pos (by omega) hp).ne').mpr
        (hfull.trans (Nat.le_mul_of_pos_right _ hp))
    exact mul_rounds _ _ hlog

/-- **A decimal is read as its magnitude rounded**, once, on either way. -/
theorem ofScientific_rounds (hD : 0 < D) (hlow : -(2048 + (D.log2 : ℤ)) ≤ E) (hE : E ≤ 2048) :
    ∃ u, Float.ofScientific D (decide (E < 0)) E.natAbs = ofUnpacked u ∧
      Rounds u .positive (D * 10 ^ E) := by
  unfold Float.ofScientific
  split
  · next hshort =>
    obtain ⟨u, hu, hrounds⟩ := ofScientific_short hD hshort.1 (Nat.lt_succ_of_le hshort.2)
    refine ⟨u, ?_, hrounds⟩
    rw [← hu]
    by_cases hneg : E < 0
    · rw [if_pos hneg]
      exact if_pos (decide_eq_true hneg)
    · rw [if_neg hneg]
      exact if_neg (by simpa using hneg)
  · have hexp : (if decide (E < 0) = true then Int.negOfNat E.natAbs else Int.ofNat E.natAbs) = E := by
      rw [Int.negOfNat_eq, Int.ofNat_eq_natCast]
      split
      · next hneg => have := of_decide_eq_true hneg; omega
      · next hneg => have := of_decide_eq_false (Bool.eq_false_of_not_eq_true hneg); omega
    simp only [hexp]
    exact ⟨_, rfl, ofScientific_long hD hlow hE⟩

theorem ofScientific_of_holds (hc : Canonical m e) (hE : E ≤ 2048)
    (h : (Binary.cell ⟨n, m, e⟩).Holds (D * 10 ^ E)) :
    Float.ofScientific D (decide (E < 0)) E.natAbs = ofUnpacked (.finite .positive m e hc.pos) := by
  obtain ⟨u, hu, hrounds⟩ :=
    ofScientific_rounds (digits_pos_of_holds hc h) (exponent_ge_of_holds hc h) hE
  rw [hu, hrounds.eq_of_holds hc h]

/-! ### The number of digits -/

theorem ten_pow_le_digits (hD : 0 < D) : 10 ^ (digitCount D - 1) ≤ D := by
  unfold digitCount
  by_contra hlt
  rcases Nat.eq_zero_or_pos ((Nat.toDigits 10 D).length - 1) with h0 | h0
  · rw [h0] at hlt
    omega
  · have := (Nat.length_toDigits_le_iff (by norm_num) h0).mpr (not_le.mp hlt)
    omega

theorem digits_lt_ten_pow (D : ℕ) : D < 10 ^ digitCount D :=
  (Nat.length_toDigits_le_iff (by norm_num) Nat.length_toDigits_pos).mp le_rfl

theorem digitCount_pos (D : ℕ) : 0 < digitCount D := Nat.length_toDigits_pos

/-- The size of a decimal in a cell is within the range of doubles. -/
theorem size_of_holds (hc : Canonical m e) (h : (Binary.cell ⟨n, m, e⟩).Holds (D * 10 ^ E)) :
    -330 ≤ E + digitCount D ∧ E + digitCount D ≤ 310 := by
  have hD := digits_pos_of_holds hc h
  have hlow : (10 : ℚ) ^ ((digitCount D : ℤ) - 1) ≤ D := by
    rw [← Nat.cast_one, ← Nat.cast_sub (digitCount_pos D), zpow_natCast]
    exact_mod_cast ten_pow_le_digits hD
  have hhigh : (D : ℚ) < 10 ^ (digitCount D : ℤ) := by
    rw [zpow_natCast]
    exact_mod_cast digits_lt_ten_pow D
  have hpos : (0 : ℚ) < 10 ^ E := zpow_pos (by norm_num) E
  constructor
  · by_contra hlt
    have hval : (D : ℚ) * 10 ^ E < 2 ^ (-1075 : ℤ) := by
      calc (D : ℚ) * 10 ^ E < 10 ^ (digitCount D : ℤ) * 10 ^ E := mul_lt_mul_of_pos_right hhigh hpos
        _ = 10 ^ (digitCount D + E) := (zpow_add₀ (by norm_num) _ _).symm
        _ ≤ 10 ^ (-330 : ℤ) := zpow_le_zpow_right₀ (by norm_num) (by omega)
        _ ≤ 2 ^ (-1075 : ℤ) := by
          rw [zpow_neg, zpow_neg]
          refine inv_anti₀ (two_zpow_pos 1075) ?_
          exact_mod_cast (by decide +kernel : 2 ^ 1075 ≤ 10 ^ 330)
    exact absurd (least_of_holds hc h) hval.not_ge
  · by_contra hlt
    have hval : (2 : ℚ) ^ (1024 : ℤ) < D * 10 ^ E := by
      calc (2 : ℚ) ^ (1024 : ℤ) < 10 ^ (310 : ℤ) := by
            exact_mod_cast (by decide +kernel : 2 ^ 1024 < 10 ^ 310)
        _ ≤ 10 ^ ((digitCount D : ℤ) - 1 + E) := zpow_le_zpow_right₀ (by norm_num) (by omega)
        _ = 10 ^ ((digitCount D : ℤ) - 1) * 10 ^ E := zpow_add₀ (by norm_num) _ _
        _ ≤ D * 10 ^ E := mul_le_mul_of_nonneg_right hlow hpos.le
    exact absurd (greatest_of_holds hc h) hval.not_ge

/-! ### Reading a decimal -/

/-- The sign of a number by whether it is negative. -/
def signOf (negative : Bool) : Sign := if negative then .negative else .positive

theorem neg_ofUnpacked (hc : Canonical m e) :
    -ofUnpacked (.finite .positive m e hc.pos) = ofUnpacked (.finite .negative m e hc.pos) := by
  show ofUnpacked (UnpackedFloat.neg (unpacked (ofUnpacked (.finite .positive m e hc.pos)))) = _
  rw [unpacked_ofUnpacked_finite hc]
  rfl

/-- **A decimal in the cell of a double is read as that double**, its sign put before it. -/
theorem floatOfDecimal_of_holds (hc : Canonical m e) (negative : Bool)
    (h : (Binary.cell ⟨n, m, e⟩).Holds (D * 10 ^ E)) :
    floatOfDecimal negative D E = ofUnpacked (.finite (signOf negative) m e hc.pos) := by
  have hD := digits_pos_of_holds hc h
  obtain ⟨hlow, hhigh⟩ := size_of_holds hc h
  have hcount := digitCount_pos D
  have hmagnitude : (if D = 0 ∨ E + digitCount D < -330 then 0.0
      else if 310 < E + digitCount D then 1.0 / 0.0
      else Float.ofScientific D (decide (E < 0)) E.natAbs) =
      ofUnpacked (.finite .positive m e hc.pos) := by
    rw [if_neg (by omega), if_neg (by omega), ofScientific_of_holds hc (by omega) h]
  unfold floatOfDecimal
  simp only [hmagnitude]
  cases negative
  · rfl
  · exact neg_ofUnpacked hc

/-- No digits but zeros are read as zero. -/
theorem floatOfDecimal_zero (negative : Bool) (E : ℤ) :
    floatOfDecimal negative 0 E = ofUnpacked (.zero (signOf negative)) := by
  unfold floatOfDecimal
  simp only [true_or, if_true]
  cases negative
  · decide +kernel
  · decide +kernel

end Double
end ShapeCodec
