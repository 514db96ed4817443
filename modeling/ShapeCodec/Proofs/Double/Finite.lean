/-
# Finite doubles, and those that are no number

Rounding has no end of its own: whatever the size of a number, it gives a mantissa of 53 bits and
an exponent. Only when these are packed into a double is an exponent too large for it made into an
infinity. So what is rounded is finite exactly if it is below one bound, half way from the greatest
double to the power of two after it (`Double.Rounds.isFinite_iff`). A whole number is rounded to a
finite double exactly below that bound, and a finite double stays finite when it is divided by the
multiplier of a metric, which is not below one. Multiplied, it may not. What is no number comes of
nothing else: no decimal is read as it, and no multiplier makes it of a number.

Key theorems: `Double.Rounds.isFinite_iff`, `floatOfInt?_eq_some`, `Double.div_isFinite`,
`Double.floatOfDecimal_isNaN`.
-/
import ShapeCodec.Metric
import ShapeCodec.Proofs.Double.Decimal

namespace ShapeCodec
namespace Double

open Float.Model (Format UnpackedFloat)
open Float.Model.UnpackedFloat (Sign Accuracy ExtendedMantissa)

/-! ### The bound -/

/-- The bound is half a place above the greatest mantissa under the greatest exponent. -/
theorem overflowBound_eq : (overflowBound : ℚ) = (2 ^ 53 - 1 / 2) * 2 ^ (971 : ℤ) := by
  -- of any two powers so far apart, so that none of these is computed
  have hsplit : ∀ (k n : ℕ) (e : ℤ), k = 54 + n → e = n + 1 →
      ((Nat.pow 2 k - Nat.pow 2 n : ℕ) : ℚ) = (2 ^ 53 - 1 / 2) * 2 ^ e := by
    rintro k n e rfl rfl
    rw [Nat.pow_eq, Nat.pow_eq, pow_add, Nat.cast_sub (Nat.le_mul_of_pos_left _ (by norm_num)),
      zpow_add₀ (by norm_num), zpow_natCast]
    push_cast
    ring
  unfold overflowBound
  apply hsplit
  · norm_num
  · norm_num

section
variable {s : Sign} {m M : ℕ} {e E T : ℤ} {acc : Accuracy} {y : ℚ} {em : ExtendedMantissa}
  {u : UnpackedFloat} {v : ℚ}

/-- A finite double is below the bound. -/
theorem Canonical.value_lt (hc : Canonical m e) : (m : ℚ) * 2 ^ e < overflowBound := by
  have hm : (m : ℚ) ≤ 2 ^ 53 - 1 := by
    have h : (m : ℚ) + 1 ≤ 2 ^ 53 := by exact_mod_cast hc.lt
    linarith
  have hpos := two_zpow_pos 971
  rw [overflowBound_eq]
  calc (m : ℚ) * 2 ^ e ≤ (2 ^ 53 - 1) * 2 ^ (971 : ℤ) :=
        mul_le_mul hm (zpow_le_zpow_right₀ (by norm_num) hc.greatest) (two_zpow_pos e).le (by norm_num)
    _ < (2 ^ 53 - 1 / 2) * 2 ^ (971 : ℤ) := mul_lt_mul_of_pos_right (by norm_num) hpos

/-! ### Rounding -/

theorem OnGrid.rounded_le (h : OnGrid em T y) : em.roundedMantissa ≤ 2 ^ 53 := by
  have hlow := h.marks.near.1
  have hlt := h.lt
  have hr : (em.roundedMantissa : ℚ) < 2 ^ 53 + 1 := by linarith
  have hr' : em.roundedMantissa < 2 ^ 53 + 1 := by exact_mod_cast hr
  omega

/-- On its grid a mantissa is rounded to one of at most 53 bits, or it is carried. -/
theorem OnGrid.round (h : OnGrid em T y)
    (hfirst : UnpackedFloat.shiftToTargetExponent Format.binary64 M E acc = (em, T)) :
    UnpackedFloat.roundWithAccuracy Format.binary64 s M E acc =
      if h0 : em.roundedMantissa = 0 then .zero s
      else if em.roundedMantissa < 2 ^ 53 then
        .finite s em.roundedMantissa T (Nat.pos_of_ne_zero h0)
      else .finite s (2 ^ 52) (T + 1) (by norm_num) := by
  by_cases hlt : em.roundedMantissa < 2 ^ 53
  · simp only [UnpackedFloat.roundWithAccuracy, hfirst, shift_stays hlt h.least, hlt, if_true]
  · have heq : em.roundedMantissa = 2 ^ 53 := by
      have := h.rounded_le
      omega
    simp only [UnpackedFloat.roundWithAccuracy, hfirst, heq, shift_carries h.least, lt_irrefl,
      if_false]
    norm_num

/-- Under an exponent past the greatest a mantissa of all its bits is past the bound. -/
theorem OnGrid.bound_le_of_exponent (h : OnGrid em T y) (hT : 972 ≤ T) :
    overflowBound ≤ y * 2 ^ T := by
  have hy : (2 : ℚ) ^ 52 ≤ y := h.full.resolve_right (by omega)
  have hpow : (2 : ℚ) ^ (1 + 971 : ℤ) ≤ 2 ^ T := zpow_le_zpow_right₀ (by norm_num) (by omega)
  have hpos := two_zpow_pos 971
  rw [zpow_add₀ (by norm_num), zpow_one] at hpow
  rw [overflowBound_eq]
  calc (2 ^ 53 - 1 / 2) * (2 : ℚ) ^ (971 : ℤ) ≤ 2 ^ 52 * 2 * 2 ^ (971 : ℤ) :=
        mul_le_mul_of_nonneg_right (by norm_num) hpos.le
    _ = 2 ^ 52 * (2 * 2 ^ (971 : ℤ)) := mul_assoc _ _ _
    _ ≤ y * 2 ^ T := mul_le_mul hy hpow (by positivity) (by linarith)

/-- Under the greatest exponent a mantissa is carried exactly from the bound on. -/
theorem OnGrid.carries_iff (h : OnGrid em 971 y) :
    em.roundedMantissa = 2 ^ 53 ↔ overflowBound ≤ y * 2 ^ (971 : ℤ) := by
  rw [overflowBound_eq, mul_le_mul_iff_left₀ (two_zpow_pos 971)]
  constructor
  · intro hcarry
    have hlow := h.marks.near.1
    rw [hcarry] at hlow
    push_cast at hlow
    exact hlow
  · intro hy
    have hlt := h.lt
    exact h.marks.rounded ⟨by push_cast; linarith, by push_cast; linarith,
      fun hodd => absurd hodd (by decide)⟩

/-- Below a smaller exponent than the greatest nothing is past the bound. -/
theorem OnGrid.lt_of_exponent (h : OnGrid em T y) (hT : T ≤ 970) : y * 2 ^ T < overflowBound := by
  have hpow : (2 : ℚ) ^ T ≤ 2 ^ (-1 + 971 : ℤ) := zpow_le_zpow_right₀ (by norm_num) (by omega)
  have hpos := two_zpow_pos 971
  rw [zpow_add₀ (by norm_num)] at hpow
  rw [overflowBound_eq]
  calc y * 2 ^ T < 2 ^ 53 * 2 ^ T := mul_lt_mul_of_pos_right h.lt (two_zpow_pos T)
    _ ≤ 2 ^ 53 * (2 ^ (-1 : ℤ) * 2 ^ (971 : ℤ)) := mul_le_mul_of_nonneg_left hpow (by norm_num)
    _ = 2 ^ 53 * 2 ^ (-1 : ℤ) * 2 ^ (971 : ℤ) := (mul_assoc _ _ _).symm
    _ ≤ (2 ^ 53 - 1 / 2) * 2 ^ (971 : ℤ) := mul_le_mul_of_nonneg_right (by norm_num) hpos.le

/-- What is rounded below the bound is zero or fits a double. -/
theorem Rounds.below (h : Rounds u s v) (hv : v < overflowBound) :
    u = .zero s ∨ ∃ m e, ∃ hc : Canonical m e, u = .finite s m e hc.pos := by
  obtain ⟨M, E, acc, x, rfl, hx, hE, rfl⟩ := h
  obtain ⟨em, T, y, hfirst, hgrid, hvalue⟩ := onGrid_shift hx hE
  rw [← hvalue] at hv
  rw [hgrid.round hfirst]
  have hleast := hgrid.least
  have hT : T ≤ 971 := by
    by_contra hlarge
    exact absurd (hgrid.bound_le_of_exponent (by omega)) hv.not_ge
  by_cases h0 : em.roundedMantissa = 0
  · exact Or.inl (dif_pos h0)
  rw [dif_neg h0]
  right
  by_cases hlt : em.roundedMantissa < 2 ^ 53
  · have hfull : 2 ^ 52 ≤ em.roundedMantissa ∨ T = -1074 := by
      rcases hgrid.full with hy | hmin
      · have hhigh := hgrid.marks.near.2.1
        have hr : (2 : ℚ) ^ 52 < em.roundedMantissa + 1 := by linarith
        have hr' : 2 ^ 52 < em.roundedMantissa + 1 := by exact_mod_cast hr
        omega
      · exact Or.inr hmin
    rw [if_pos hlt]
    exact ⟨_, T, ⟨Nat.pos_of_ne_zero h0, hlt, hleast, hT, hfull⟩, rfl⟩
  · have hcarry : em.roundedMantissa = 2 ^ 53 := by
      have := hgrid.rounded_le
      omega
    have hless : T ≠ 971 := by
      rintro rfl
      exact absurd (hgrid.carries_iff.mp hcarry) hv.not_ge
    rw [if_neg hlt]
    exact ⟨2 ^ 52, T + 1, ⟨by norm_num, by norm_num, by omega, by omega, Or.inl le_rfl⟩, rfl⟩

/-- What is rounded at the bound or above has an exponent past the greatest. -/
theorem Rounds.above (h : Rounds u s v) (hv : overflowBound ≤ v) :
    ∃ m e hm, u = .finite s m e hm ∧ 972 ≤ e := by
  obtain ⟨M, E, acc, x, rfl, hx, hE, rfl⟩ := h
  obtain ⟨em, T, y, hfirst, hgrid, hvalue⟩ := onGrid_shift hx hE
  rw [← hvalue] at hv
  rw [hgrid.round hfirst]
  have hT : 971 ≤ T := by
    by_contra hsmall
    exact absurd (hgrid.lt_of_exponent (by omega)) hv.not_gt
  by_cases h971 : T = 971
  · subst h971
    have hcarry := hgrid.carries_iff.mpr hv
    rw [dif_neg (by rw [hcarry]; norm_num), if_neg (by rw [hcarry]; norm_num)]
    exact ⟨_, _, _, rfl, le_rfl⟩
  · have h0 : em.roundedMantissa ≠ 0 := by
      intro h0
      have hy : (2 : ℚ) ^ 52 ≤ y := hgrid.full.resolve_right (by omega)
      have hhigh := hgrid.marks.near.2.1
      rw [h0] at hhigh
      norm_num at hhigh
      linarith
    rw [dif_neg h0]
    split
    · exact ⟨em.roundedMantissa, T, Nat.pos_of_ne_zero h0, rfl, by omega⟩
    · exact ⟨2 ^ 52, T + 1, by norm_num, rfl, by omega⟩

/-! ### Packing -/

theorem isFinite_eq (x : Float) : x.isFinite = (unpacked x).isFinite := rfl

theorem isFinite_zero (s : Sign) : (ofUnpacked (.zero s)).isFinite = true := by
  rw [isFinite_eq, unpacked_ofUnpacked, UnpackedFloat.pack, UnpackedFloat.unpack_packedZero]
  rfl

theorem isFinite_canonical (hc : Canonical m e) :
    (ofUnpacked (.finite s m e hc.pos)).isFinite = true := by
  rw [isFinite_eq, unpacked_ofUnpacked_finite hc]
  rfl

theorem unpack_packedInfinity (s : Sign) :
    UnpackedFloat.unpack Format.binary64 (UnpackedFloat.packedInfinity Format.binary64 s) =
      .infinity s := by
  simp only [UnpackedFloat.packedInfinity, UnpackedFloat.unpack,
    UnpackedFloat.unpackExponent_packComponents, UnpackedFloat.unpackMantissa_packComponents,
    UnpackedFloat.unpackSign_packComponents, UnpackedFloat.Sign.ofBitVec_toBitVec, if_true]
  rfl

/-- An exponent past the greatest is packed as an infinity. -/
theorem unpacked_large {hm : 0 < m} (he : 972 ≤ e) :
    unpacked (ofUnpacked (.finite s m e hm)) = .infinity s := by
  have hbiased : 2 ^ Format.binary64.exponentBits ≤ (e + (Format.binary64.exponentBias : ℤ) +
      (Format.binary64.mantissaBitsWithoutImplicit : ℕ)).toNat + 1 := by
    simp [Format.exponentBias]
    omega
  rw [unpacked_ofUnpacked]
  simp only [UnpackedFloat.pack]
  rw [if_pos hbiased, unpack_packedInfinity]

/-- **What is rounded is finite exactly below the bound.** -/
theorem Rounds.isFinite_iff (h : Rounds u s v) :
    (ofUnpacked u).isFinite = true ↔ v < overflowBound := by
  constructor
  · intro hfinite
    by_contra hv
    obtain ⟨m, e, hm, rfl, he⟩ := h.above (not_lt.mp hv)
    rw [isFinite_eq, unpacked_large he] at hfinite
    cases hfinite
  · intro hv
    rcases h.below hv with rfl | ⟨m, e, hc, rfl⟩
    · exact isFinite_zero s
    · exact isFinite_canonical hc

end

/-- The negative of a double has its parts under the other sign. -/
theorem unpacked_neg (x : Float) : unpacked (-x) = UnpackedFloat.neg (unpacked x) := by
  change unpacked (ofUnpacked (UnpackedFloat.neg (unpacked x))) = _
  generalize hu : unpacked x = u
  rcases u with s | _ | s | ⟨s, m, e, hm⟩
  · exact unpack_packedInfinity _
  · show UnpackedFloat.unpack Format.binary64 (UnpackedFloat.packedNaN Format.binary64) = _
    exact UnpackedFloat.unpack_packedNaN
  · exact UnpackedFloat.unpack_packedZero
  · exact unpacked_ofUnpacked_finite (canonical_of_unpacked hu)

theorem isFinite_neg (x : Float) : (-x).isFinite = x.isFinite := by
  rw [isFinite_eq, isFinite_eq, unpacked_neg]
  cases unpacked x <;> rfl

/-! ### Whole numbers -/

/-- The magnitude of a whole number is finite exactly below the bound. -/
theorem ofScientific_isFinite_iff (D : ℕ) :
    (Float.ofScientific D false 0).isFinite = true ↔ D < overflowBound := by
  rcases Nat.eq_zero_or_pos D with rfl | hD
  · exact iff_of_true (by decide +kernel) (by decide +kernel)
  · obtain ⟨u, hu, hrounds⟩ := ofScientific_rounds (E := 0) hD (by omega) (by norm_num)
    have hmagnitude : Float.ofScientific D false 0 = ofUnpacked u := hu
    rw [hmagnitude, hrounds.isFinite_iff, zpow_zero, mul_one, Nat.cast_lt]

end Double

theorem Float.ofInt_eq (n : ℤ) : Float.ofInt n =
    if n < 0 then -Float.ofScientific n.natAbs false 0 else Float.ofScientific n.natAbs false 0 := by
  cases n with
  | ofNat k => rfl
  | negSucc k =>
    rw [if_pos (Int.negSucc_lt_zero k)]
    rfl

/-- **A whole number has a double exactly if the double nearest to it is finite.** -/
theorem floatOfInt?_eq_some {n : ℤ} {x : Float} :
    floatOfInt? n = some x ↔ (Float.ofInt n).isFinite = true ∧ Float.ofInt n = x := by
  have hfinite : (Float.ofInt n).isFinite = true ↔ n.natAbs < overflowBound := by
    rw [← Double.ofScientific_isFinite_iff, Float.ofInt_eq]
    split
    · rw [Double.isFinite_neg]
    · rfl
  rw [hfinite, Float.ofInt_eq]
  unfold floatOfInt?
  by_cases h : n.natAbs < overflowBound
  · simp [h]
  · simp [h]

/-! ### Quotients by a multiplier -/

namespace Double

open Float.Model (Format UnpackedFloat)
open Float.Model.UnpackedFloat (Sign)

/-- The multipliers, by their parts. -/
theorem multiplier_parts (m : Metric) : ∃ p q, Parts.ofFloat m.multiplier = .finite ⟨false, p, q⟩ ∧
    q ≤ 0 ∧ 2 ^ (-q).toNat ≤ p := by
  cases m with
  | kilometers => exact ⟨7012835795048333, -40, by decide +kernel⟩
  | miles => exact ⟨8715149175194386, -41, by decide +kernel⟩
  | neutral => exact ⟨2 ^ 52, -52, by decide +kernel⟩

/-- The multipliers are not below one. -/
theorem unpacked_multiplier (m : Metric) : ∃ p q, ∃ hp : 0 < p,
    unpacked m.multiplier = .finite .positive p q hp ∧ (1 : ℚ) ≤ p * 2 ^ q := by
  obtain ⟨p, q, hparts, hq, hle⟩ := multiplier_parts m
  have hp : 0 < p := (Nat.two_pow_pos _).trans_le hle
  have hle' : (2 : ℚ) ^ (-q) ≤ p := by
    rw [show -q = ((-q).toNat : ℤ) by omega, zpow_natCast]
    exact_mod_cast hle
  refine ⟨p, q, hp, unpacked_of_parts hp hparts, ?_⟩
  calc (1 : ℚ) = 2 ^ (-q) * 2 ^ q := by rw [← zpow_add₀ (by norm_num), neg_add_cancel, zpow_zero]
    _ ≤ p * 2 ^ q := mul_le_mul_of_nonneg_right hle' (two_zpow_pos q).le

/-- **A finite double stays finite when it is divided by a multiplier.** -/
theorem div_isFinite {x : Float} (hx : x.isFinite = true) (m : Metric) :
    (x / m.multiplier).isFinite = true := by
  obtain ⟨p, q, hp, hm, hle⟩ := unpacked_multiplier m
  change (ofUnpacked (UnpackedFloat.div Format.binary64 (unpacked x) (unpacked m.multiplier))).isFinite
    = true
  rw [isFinite_eq] at hx
  rw [hm]
  generalize hu : unpacked x = u at hx ⊢
  rcases u with s | _ | s | ⟨s, k, e, hk⟩
  · cases hx
  · cases hx
  · exact isFinite_zero _
  · have hvalue : (k : ℚ) * 2 ^ e / (p * 2 ^ q) < overflowBound :=
      calc (k : ℚ) * 2 ^ e / (p * 2 ^ q) ≤ k * 2 ^ e :=
            div_le_self (mul_nonneg (Nat.cast_nonneg k) (two_zpow_pos e).le) hle
        _ < overflowBound := (canonical_of_unpacked hu).value_lt
    exact (div_rounds hk hp).isFinite_iff.mpr hvalue

/-! ### Not a number -/

theorem isNaN_eq (x : Float) : x.isNaN = (unpacked x).isNaN := rfl

theorem isNaN_of_isFinite {x : Float} (hx : x.isFinite = true) : x.isNaN = false := by
  rw [isFinite_eq] at hx
  rw [isNaN_eq]
  cases hu : unpacked x with
  | notANumber =>
    rw [hu] at hx
    cases hx
  | _ => rfl

theorem isNaN_packComponents {s : Sign} {e : BitVec Format.binary64.exponentBits}
    {m : BitVec Format.binary64.mantissaBitsWithoutImplicit} (he : e ≠ -1#_) :
    (UnpackedFloat.unpack Format.binary64
      (UnpackedFloat.packComponents Format.binary64 s e m)).isNaN = false := by
  unfold UnpackedFloat.unpack
  simp only [UnpackedFloat.unpackExponent_packComponents, if_neg he]
  split
  · split <;> rfl
  · rfl

/-- Packing makes what is no number of nothing else. -/
theorem isNaN_ofUnpacked {u : UnpackedFloat} (hu : u.isNaN = false) :
    (ofUnpacked u).isNaN = false := by
  rw [isNaN_eq, unpacked_ofUnpacked]
  rcases u with s | _ | s | ⟨s, m, e, hm⟩
  · rw [UnpackedFloat.pack, unpack_packedInfinity]
    rfl
  · cases hu
  · rw [UnpackedFloat.pack, UnpackedFloat.unpack_packedZero]
    rfl
  · simp only [UnpackedFloat.pack]
    split
    · rw [unpack_packedInfinity]
      rfl
    · next hlt =>
      split
      · refine isNaN_packComponents fun hones => ?_
        have hfield := congrArg BitVec.toNat hones
        rw [BitVec.toNat_ofNat] at hfield
        simp at hlt hfield
        omega
      · exact isNaN_packComponents (by decide)

theorem isNaN_round {s : Sign} {M : ℕ} {E : ℤ} {acc : UnpackedFloat.Accuracy} :
    (UnpackedFloat.roundWithAccuracy Format.binary64 s M E acc).isNaN = false := by
  unfold UnpackedFloat.roundWithAccuracy
  simp only
  split <;> rfl

/-- Dividing a number by a multiplier gives a number. -/
theorem div_isNaN {x : Float} (hx : x.isNaN = false) (m : Metric) :
    (x / m.multiplier).isNaN = false := by
  obtain ⟨p, q, hp, hm, -⟩ := unpacked_multiplier m
  refine isNaN_ofUnpacked
    (u := UnpackedFloat.div Format.binary64 (unpacked x) (unpacked m.multiplier)) ?_
  rw [isNaN_eq] at hx
  rw [hm]
  generalize unpacked x = u at hx ⊢
  rcases u with s | _ | s | ⟨s, k, e, hk⟩
  · rfl
  · cases hx
  · rfl
  · exact isNaN_round

/-- So does multiplying. -/
theorem mul_isNaN {x : Float} (hx : x.isNaN = false) (m : Metric) :
    (x * m.multiplier).isNaN = false := by
  obtain ⟨p, q, hp, hm, -⟩ := unpacked_multiplier m
  refine isNaN_ofUnpacked
    (u := UnpackedFloat.mul Format.binary64 (unpacked x) (unpacked m.multiplier)) ?_
  rw [isNaN_eq] at hx
  rw [hm]
  generalize unpacked x = u at hx ⊢
  rcases u with s | _ | s | ⟨s, k, e, hk⟩
  · rfl
  · cases hx
  · rfl
  · exact isNaN_round

theorem isNaN_neg (x : Float) : (-x).isNaN = x.isNaN := by
  rw [isNaN_eq, isNaN_eq, unpacked_neg]
  cases unpacked x <;> rfl

theorem digitCount_le_log2 {D : ℕ} (hD : 0 < D) : digitCount D ≤ D.log2 + 1 := by
  have hpow : 2 ^ (digitCount D - 1) ≤ D :=
    (Nat.pow_le_pow_left (by norm_num) _).trans (ten_pow_le_digits hD)
  have := (Nat.le_log2 hD.ne').mpr hpow
  omega

/-- A decimal is read as a number, though it may be an infinite one. -/
theorem floatOfDecimal_isNaN (negative : Bool) (D : ℕ) (E : ℤ) :
    (floatOfDecimal negative D E).isNaN = false := by
  have hmagnitude : (if D = 0 ∨ E + digitCount D < -330 then 0.0
      else if 310 < E + digitCount D then 1.0 / 0.0
      else Float.ofScientific D (decide (E < 0)) E.natAbs).isNaN = false := by
    by_cases hsmall : D = 0 ∨ E + digitCount D < -330
    · rw [if_pos hsmall]
      decide +kernel
    rw [if_neg hsmall]
    by_cases hlarge : 310 < E + digitCount D
    · rw [if_pos hlarge]
      decide +kernel
    rw [if_neg hlarge]
    have hD : 0 < D := by omega
    have hcount := digitCount_le_log2 hD
    have hpos := digitCount_pos D
    obtain ⟨u, hu, _, _, _, _, rfl, -⟩ := ofScientific_rounds (E := E) hD (by omega) (by omega)
    rw [hu]
    exact isNaN_ofUnpacked isNaN_round
  unfold floatOfDecimal
  simp only
  cases negative
  · exact hmagnitude
  · exact (isNaN_neg _).trans hmagnitude

end Double
end ShapeCodec
