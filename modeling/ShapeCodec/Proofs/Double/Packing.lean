/-
# Doubles taken apart

The logic knows a double by its 64 bits, and the operations on doubles by what they do on the
unpacked form: an infinity, no number, a zero, or a sign with a mantissa and an exponent. Here
the two are tied together. What is unpacked from a double other than zero has all of its 53 bits
or the least exponent (`Canonical`), packing undoes unpacking, and on canonical numbers
unpacking undoes packing. `Parts.ofFloat`, which reads the bits by division, sees the same parts.

Key definitions: `Double.Canonical`, `Double.unpacked`, `Double.ofUnpacked`.
Key theorems: `Double.ofUnpacked_unpacked`, `Double.unpacked_ofUnpacked_finite`,
`Double.canonical_of_unpacked`, `Double.parts_eq`, `Double.unpacked_of_parts`.
-/
import Mathlib
import ShapeCodec.Number.Binary

namespace ShapeCodec
namespace Double

open Float.Model (Format UnpackedFloat)
open Float.Model.UnpackedFloat (Sign unpackSign unpackExponent unpackMantissa)

/-- A mantissa and an exponent as a finite double other than zero has them: the mantissa is 53
bits long, or shorter under the least exponent. -/
structure Canonical (m : ℕ) (e : ℤ) : Prop where
  pos : 0 < m
  lt : m < 2 ^ 53
  least : -1074 ≤ e
  greatest : e ≤ 971
  full : 2 ^ 52 ≤ m ∨ e = -1074

/-! ### The fields of the bits -/

section Bits

variable (b : BitVec Format.binary64.numBits)

theorem mantissa_toNat : (unpackMantissa b).toNat = b.toNat % 2 ^ 52 := by
  rw [UnpackedFloat.unpackMantissa_def, BitVec.extractLsb'_toNat, Nat.shiftRight_zero]

theorem exponent_toNat : (unpackExponent b).toNat = b.toNat / 2 ^ 52 % 2048 := by
  rw [UnpackedFloat.unpackExponent_def, BitVec.extractLsb'_toNat, Nat.shiftRight_eq_div_pow]
  rfl

theorem sign_toNat : (unpackSign b).toNat = b.toNat / 2 ^ 63 := by
  rw [UnpackedFloat.unpackSign_def, BitVec.extractLsb'_toNat, Nat.shiftRight_eq_div_pow]
  have := b.isLt
  simp only [Format.numBits] at this ⊢
  omega

theorem exponent_eq_ones : unpackExponent b = -1#_ ↔ b.toNat / 2 ^ 52 % 2048 = 2047 := by
  rw [← BitVec.toNat_inj, exponent_toNat]
  rfl

theorem exponent_eq_zero : unpackExponent b = 0#_ ↔ b.toNat / 2 ^ 52 % 2048 = 0 := by
  rw [← BitVec.toNat_inj, exponent_toNat]
  rfl

theorem mantissa_eq_zero : unpackMantissa b = 0#_ ↔ b.toNat % 2 ^ 52 = 0 := by
  rw [← BitVec.toNat_inj, mantissa_toNat]
  rfl

theorem full_mantissa_toNat : (1#1 ++ unpackMantissa b).toNat = 2 ^ 52 + b.toNat % 2 ^ 52 := by
  rw [BitVec.toNat_append, ← Nat.shiftLeft_add_eq_or_of_lt (unpackMantissa b).isLt, mantissa_toNat]
  rfl

end Bits

/-! ### Unpacking and packing -/

theorem canonical_of_unpack {b : BitVec Format.binary64.numBits} {s : Sign} {m : ℕ} {e : ℤ} {hm : 0 < m}
    (h : UnpackedFloat.unpack Format.binary64 b = .finite s m e hm) : Canonical m e := by
  have hlt : b.toNat / 2 ^ 52 % 2048 < 2048 := Nat.mod_lt _ (by norm_num)
  have hfrac : b.toNat % 2 ^ 52 < 2 ^ 52 := Nat.mod_lt _ (by norm_num)
  simp only [UnpackedFloat.unpack, Format.exponentBias] at h
  split at h
  · split at h <;> cases h
  · rename_i h1
    rw [exponent_eq_ones] at h1
    split at h
    · rename_i h0
      rw [exponent_eq_zero] at h0
      split at h
      · cases h
      · injection h with _ hmm he
        rw [mantissa_toNat] at hmm
        rw [exponent_toNat, h0] at he
        constructor <;> omega
    · rename_i h0
      rw [exponent_eq_zero] at h0
      injection h with _ hmm he
      rw [full_mantissa_toNat] at hmm
      rw [exponent_toNat] at he
      constructor <;> omega

theorem unpack_pack {s : Sign} {m : ℕ} {e : ℤ} (h : Canonical m e) :
    UnpackedFloat.unpack Format.binary64 (UnpackedFloat.pack Format.binary64 (.finite s m e h.pos)) =
      .finite s m e h.pos := by
  obtain ⟨hpos, hlt, hleast, hgreatest, hfull⟩ := h
  have hbiased : ((e + (Format.binary64.exponentBias : ℤ) +
      (Format.binary64.mantissaBitsWithoutImplicit : ℕ)).toNat) = (e + 1075).toNat := by
    simp [Format.exponentBias]
    omega
  simp only [UnpackedFloat.pack]
  rw [hbiased, if_neg (by simp; omega)]
  by_cases hn : 2 ^ 52 ≤ m
  · have hlog : m.log2 = 52 := (Nat.log2_eq_iff hpos.ne').mpr ⟨hn, hlt⟩
    have hfield : (BitVec.ofNat 11 (e + 1075).toNat).toNat = (e + 1075).toNat := by
      rw [BitVec.toNat_ofNat, Nat.mod_eq_of_lt (by omega)]
    have hones : BitVec.ofNat 11 (e + 1075).toNat ≠ -1#11 := by
      rw [ne_eq, ← BitVec.toNat_inj, hfield]
      simp
      omega
    have hzero : BitVec.ofNat 11 (e + 1075).toNat ≠ 0#11 := by
      rw [ne_eq, ← BitVec.toNat_inj, hfield]
      simp
      omega
    have hmant : (1#1 ++ BitVec.ofNat 52 m).toNat = m := by
      rw [BitVec.toNat_append, ← Nat.shiftLeft_add_eq_or_of_lt (BitVec.ofNat 52 m).isLt,
        BitVec.toNat_ofNat]
      simp
      omega
    rw [if_pos (by rw [hlog]; rfl)]
    simp only [UnpackedFloat.unpack, UnpackedFloat.unpackExponent_packComponents,
      UnpackedFloat.unpackMantissa_packComponents, UnpackedFloat.unpackSign_packComponents,
      UnpackedFloat.Sign.ofBitVec_toBitVec, hones, hzero, if_false, hmant, hfield]
    congr 1
    simp [Format.exponentBias]
    omega
  · have he : e = -1074 := hfull.resolve_left hn
    have hlog : m.log2 < 52 := (Nat.log2_lt hpos.ne').mpr (by omega)
    have hmant : (BitVec.ofNat 52 m).toNat = m := by
      rw [BitVec.toNat_ofNat, Nat.mod_eq_of_lt (by omega)]
    have hzero : BitVec.ofNat 52 m ≠ 0#52 := by
      rw [ne_eq, ← BitVec.toNat_inj, hmant]
      simp
      omega
    rw [if_neg (by simp [Format.mantissaBits]; omega)]
    have hones : 0#11 ≠ -1#11 := by decide
    simp only [UnpackedFloat.unpack, UnpackedFloat.unpackExponent_packComponents,
      UnpackedFloat.unpackMantissa_packComponents, UnpackedFloat.unpackSign_packComponents,
      UnpackedFloat.Sign.ofBitVec_toBitVec, hones, hzero, if_false, if_true, hmant, dite_false]
    congr 1
    simp [Format.exponentBias, he]

/-- A double put together from its parts. -/
def ofUnpacked (u : UnpackedFloat) : Float := .ofModel (.pack u)

/-- The parts of a double. -/
def unpacked (x : Float) : UnpackedFloat := x.toModel.unpack

theorem ofUnpacked_unpacked (x : Float) : ofUnpacked (unpacked x) = x := by
  obtain ⟨⟨bits, hvalid⟩⟩ := x
  simp only [ofUnpacked, unpacked, Float.Model.pack, Float.Model.unpack, Float.ofModel.injEq,
    Float.Model.mk.injEq]
  rw [UnpackedFloat.pack_unpack_of_valid hvalid]

theorem unpacked_ofUnpacked (u : UnpackedFloat) : unpacked (ofUnpacked u) =
    UnpackedFloat.unpack Format.binary64 (UnpackedFloat.pack Format.binary64 u) := rfl

theorem canonical_of_unpacked {x : Float} {s : Sign} {m : ℕ} {e : ℤ} {hm : 0 < m}
    (h : unpacked x = .finite s m e hm) : Canonical m e :=
  canonical_of_unpack h

theorem unpacked_ofUnpacked_finite {s : Sign} {m : ℕ} {e : ℤ} (h : Canonical m e) :
    unpacked (ofUnpacked (.finite s m e h.pos)) = .finite s m e h.pos :=
  unpack_pack h

/-! ### The parts by division -/

/-- What a double is, by its parts. -/
def partsOf : UnpackedFloat → Parts
  | .notANumber => .nan
  | .infinity s => .infinite (s == .negative)
  | .zero s => .finite ⟨s == .negative, 0, -1074⟩
  | .finite s m e _ => .finite ⟨s == .negative, m, e⟩

theorem negative_eq (b : BitVec Format.binary64.numBits) :
    decide (2 ^ 63 ≤ b.toNat) = (Sign.ofBitVec (unpackSign b) == .negative) := by
  have hs := sign_toNat b
  by_cases h : unpackSign b = 0#1
  · have h0 : (unpackSign b).toNat = 0 := by rw [h]; rfl
    rw [Sign.ofBitVec, if_pos h, decide_eq_false (by omega)]
    rfl
  · have h0 : (unpackSign b).toNat ≠ 0 := fun h0 => h (BitVec.eq_of_toNat_eq h0)
    rw [Sign.ofBitVec, if_neg h, decide_eq_true (by omega)]
    rfl

theorem parts_eq (x : Float) : Parts.ofFloat x = partsOf (unpacked x) := by
  have hbits : x.toBits.toNat = x.toModel.toBits.toBitVec.toNat := rfl
  change Parts.ofBits _ = partsOf (UnpackedFloat.unpack Format.binary64 x.toModel.toBits.toBitVec)
  rw [hbits]
  generalize x.toModel.toBits.toBitVec = b
  simp only [Parts.ofBits, Nat.pow_eq]
  unfold UnpackedFloat.unpack
  simp only [Format.exponentBias]
  by_cases h1 : b.toNat / 2 ^ 52 % 2048 = 2047
  · rw [if_pos h1, if_pos ((exponent_eq_ones b).mpr h1)]
    by_cases h0 : b.toNat % 2 ^ 52 = 0
    · rw [if_pos h0, if_pos ((mantissa_eq_zero b).mpr h0), negative_eq]
      rfl
    · rw [if_neg h0, if_neg (mt (mantissa_eq_zero b).mp h0)]
      rfl
  · rw [if_neg h1, if_neg (mt (exponent_eq_ones b).mp h1)]
    by_cases h0 : b.toNat / 2 ^ 52 % 2048 = 0
    · rw [if_pos h0, if_pos ((exponent_eq_zero b).mpr h0)]
      split
      · rename_i hm
        rw [(mantissa_eq_zero b).mp hm, negative_eq]
        rfl
      · rw [negative_eq, partsOf, mantissa_toNat, exponent_toNat, h0]
        rfl
    · rw [if_neg h0, if_neg (mt (exponent_eq_zero b).mp h0), negative_eq, partsOf, full_mantissa_toNat,
        exponent_toNat]
      rfl

/-- A positive number by its parts. -/
theorem unpacked_of_parts {x : Float} {m : ℕ} {e : ℤ} (hm : 0 < m)
    (h : Parts.ofFloat x = .finite ⟨false, m, e⟩) : unpacked x = .finite .positive m e hm := by
  rw [parts_eq] at h
  generalize unpacked x = u at h ⊢
  rcases u with _ | _ | _ | ⟨_ | _, p, q, hp⟩ <;> simp only [partsOf, Parts.finite.injEq,
    Binary.mk.injEq, reduceCtorEq] at h
  · omega
  · exact absurd h.1 (by decide)
  · obtain ⟨-, rfl, rfl⟩ := h
    rfl

end Double
end ShapeCodec
