/-
# Rounding to a double

Every operation on doubles ends in one step: a mantissa with an exponent, and with two residual
bits that tell how much was cut off, is cut to 53 bits and rounded, a tie to even. The residual
bits say where in the place of the mantissa the exact number lies (`Marks`), and cutting more
bits keeps that true. Around every double lie the numbers that are rounded to it, its cell
(`Cell.Holds`); the main theorem is that rounding, on whatever grid it starts, ends at the double
in whose cell the exact number lies. Below a power of two the cell reaches into a finer grid:
there the mantissa is rounded up to 54 bits, and carried.

Key definitions: `Cell.Holds`, `Double.Marks`, `Double.Near`, `Double.OnGrid`, `Double.Rounds`.
Key theorems: `Double.round_of_holds`, `Double.mul_rounds`, `Double.div_rounds`.
-/
import ShapeCodec.Number.Shortest
import ShapeCodec.Proofs.Double.Packing

namespace ShapeCodec

/-- A number lies in a cell. -/
def Cell.Holds (c : Cell) (v : ℚ) : Prop :=
  if c.closed then c.low * 2 ^ c.unit ≤ v ∧ v ≤ c.high * 2 ^ c.unit
  else c.low * 2 ^ c.unit < v ∧ v < c.high * 2 ^ c.unit

namespace Double

open Float.Model (Format UnpackedFloat totalExponent)
open Float.Model.UnpackedFloat (Sign Accuracy ExtendedMantissa)

/-! ### Residual bits -/

/-- The number that a mantissa with its residual bits stands for: at the mantissa, below half a
place above it, at half a place, or past it. -/
def Marks (em : ExtendedMantissa) (x : ℚ) : Prop :=
  match em.roundBit, em.stickyBit with
  | false, false => x = em.mantissa
  | false, true => em.mantissa < x ∧ x < em.mantissa + 1 / 2
  | true, false => x = em.mantissa + 1 / 2
  | true, true => em.mantissa + 1 / 2 < x ∧ x < em.mantissa + 1

/-- A whole number that is nearest to a number; an odd one is nearer than any other. -/
def Near (k : ℕ) (x : ℚ) : Prop :=
  k - 1 / 2 ≤ x ∧ x ≤ k + 1 / 2 ∧ (k % 2 = 1 → k - 1 / 2 < x ∧ x < k + 1 / 2)

theorem Marks.le {em : ExtendedMantissa} {x : ℚ} (h : Marks em x) : em.mantissa ≤ x := by
  obtain ⟨m, r, s⟩ := em
  cases r <;> cases s <;> simp only [Marks] at h ⊢ <;> linarith

theorem Marks.lt {em : ExtendedMantissa} {x : ℚ} (h : Marks em x) : x < em.mantissa + 1 := by
  obtain ⟨m, r, s⟩ := em
  cases r <;> cases s <;> simp only [Marks] at h ⊢ <;> linarith

theorem Marks.shiftRightOne {em : ExtendedMantissa} {x : ℚ} (h : Marks em x) :
    Marks em.shiftRightOne (x / 2) := by
  obtain ⟨m, r, s⟩ := em
  have hm : (m : ℚ) = 2 * (m / 2 : ℕ) + (m % 2 : ℕ) := by
    exact_mod_cast (Nat.div_add_mod m 2).symm
  rcases Nat.mod_two_eq_zero_or_one m with h2 | h2 <;> rw [h2] at hm <;> push_cast at hm <;>
    cases r <;> cases s <;> simp [Marks, ExtendedMantissa.shiftRightOne, h2] at h ⊢ <;>
    first | linarith | constructor <;> linarith

theorem Marks.shiftRight {em : ExtendedMantissa} {x : ℚ} (h : Marks em x) :
    ∀ n : ℕ, Marks (em >>> n) (x / 2 ^ n)
  | 0 => by rw [pow_zero, div_one]; exact h
  | n + 1 => by
    rw [pow_succ, ← div_div]
    exact (Marks.shiftRight h n).shiftRightOne

/-- A mantissa is rounded to the nearest whole number. -/
theorem Marks.near {em : ExtendedMantissa} {x : ℚ} (h : Marks em x) :
    Near em.roundedMantissa x := by
  obtain ⟨m, r, s⟩ := em
  cases r <;> cases s <;> simp only [Marks] at h <;>
    simp only [ExtendedMantissa.roundedMantissa, ExtendedMantissa.accuracy,
      Accuracy.roundToNearestEven, Near]
  · subst h
    exact ⟨by linarith, by linarith, fun _ => ⟨by linarith, by linarith⟩⟩
  · exact ⟨by linarith, by linarith, fun _ => ⟨by linarith, by linarith⟩⟩
  · -- half way, where the even one of the two neighbours is taken
    have heven : (m + m % 2) % 2 = 0 := by omega
    have hle : ((m % 2 : ℕ) : ℚ) ≤ 1 := by exact_mod_cast Nat.lt_succ_iff.mp (Nat.mod_lt m two_pos)
    have hge : (0 : ℚ) ≤ ((m % 2 : ℕ) : ℚ) := Nat.cast_nonneg _
    subst h
    push_cast
    exact ⟨by linarith, by linarith, fun hodd => absurd hodd (by omega)⟩
  · push_cast
    exact ⟨by linarith, by linarith, fun _ => ⟨by linarith, by linarith⟩⟩

/-- There is one nearest whole number, since of two neighbours one is odd. -/
theorem Near.unique {k l : ℕ} {x : ℚ} (hk : Near k x) (hl : Near l x) : k = l := by
  obtain ⟨hk₁, hk₂, hkodd⟩ := hk
  obtain ⟨hl₁, hl₂, hlodd⟩ := hl
  have hkl : (k : ℚ) ≤ l + 1 := by linarith
  have hlk : (l : ℚ) ≤ k + 1 := by linarith
  norm_cast at hkl hlk
  rcases Nat.lt_trichotomy k l with hlt | heq | hlt
  · obtain rfl : l = k + 1 := by omega
    push_cast at hl₁
    rcases Nat.mod_two_eq_zero_or_one k with hk0 | hk1
    · have := (hlodd (by omega)).1
      push_cast at this
      linarith
    · have := (hkodd hk1).2
      linarith
  · exact heq
  · obtain rfl : k = l + 1 := by omega
    push_cast at hk₁
    rcases Nat.mod_two_eq_zero_or_one l with hl0 | hl1
    · have := (hkodd (by omega)).1
      push_cast at this
      linarith
    · have := (hlodd hl1).2
      linarith

theorem Marks.rounded {em : ExtendedMantissa} {x : ℚ} (h : Marks em x) {k : ℕ} (hk : Near k x) :
    em.roundedMantissa = k := h.near.unique hk

/-! ### Cells -/

theorem two_zpow_pos (e : ℤ) : (0 : ℚ) < 2 ^ e := zpow_pos (by norm_num) e

/-- A cell reaches half a place to either side, up to the ends only if the mantissa is even. -/
theorem near_of_holds {b : Binary} (hb : 0 < b.mantissa) {x : ℚ}
    (h : b.cell.Holds (x * 2 ^ b.exponent)) : Near b.mantissa x := by
  have hu : (2 : ℚ) ^ b.exponent = 4 * 2 ^ (b.exponent - 2) := by
    rw [zpow_sub₀ (by norm_num)]; ring
  have hpos := two_zpow_pos (b.exponent - 2)
  have hlow : (4 * (b.mantissa : ℚ) - 2) ≤ ((4 * b.mantissa -
      (if b.mantissa = 2 ^ 52 ∧ -1074 < b.exponent then 1 else 2) : ℕ) : ℚ) := by
    rw [Nat.cast_sub (by split <;> omega)]
    push_cast
    split <;> linarith
  simp only [Cell.Holds, Binary.cell, Nat.pow_eq, hu, ← mul_assoc] at h
  generalize 4 * b.mantissa - _ = low at h hlow
  by_cases hc : (b.mantissa % 2 == 0) = true
  · rw [if_pos hc, mul_le_mul_iff_left₀ hpos, mul_le_mul_iff_left₀ hpos] at h
    push_cast at h
    refine ⟨by linarith [h.1], by linarith [h.2], fun ho => ?_⟩
    simp [ho] at hc
  · rw [if_neg hc, mul_lt_mul_iff_left₀ hpos, mul_lt_mul_iff_left₀ hpos] at h
    push_cast at h
    exact ⟨by linarith [h.1], by linarith [h.2], fun _ => ⟨by linarith [h.1], by linarith [h.2]⟩⟩

/-- Below a power of two, except at the bottom, a cell reaches half a place of the finer grid. -/
theorem low_of_holds {b : Binary} (hb : b.mantissa = 2 ^ 52) (he : -1074 < b.exponent)
    {v : ℚ} (h : b.cell.Holds v) : (2 ^ 53 - 1 / 2) * 2 ^ (b.exponent - 1) ≤ v := by
  have hu : (2 : ℚ) ^ (b.exponent - 1) = 2 * 2 ^ (b.exponent - 2) := by
    rw [zpow_sub₀ (by norm_num), zpow_sub₀ (by norm_num)]; ring
  simp only [Cell.Holds, Binary.cell, Nat.pow_eq, hb, he] at h
  norm_num at h
  rw [hu]
  linarith [h.1]

theorem holds_self {b : Binary} (hb : 0 < b.mantissa) :
    b.cell.Holds (b.mantissa * 2 ^ b.exponent) := by
  have hu : (2 : ℚ) ^ b.exponent = 4 * 2 ^ (b.exponent - 2) := by
    rw [zpow_sub₀ (by norm_num)]; ring
  have hpos := two_zpow_pos (b.exponent - 2)
  have hlow : ((4 * b.mantissa -
      (if b.mantissa = 2 ^ 52 ∧ -1074 < b.exponent then 1 else 2) : ℕ) : ℚ) < 4 * b.mantissa := by
    rw [Nat.cast_sub (by split <;> omega)]
    push_cast
    split <;> linarith
  simp only [Cell.Holds, Binary.cell, Nat.pow_eq, hu, ← mul_assoc]
  generalize 4 * b.mantissa - _ = low at hlow ⊢
  push_cast
  split
  · exact ⟨by nlinarith, by nlinarith⟩
  · exact ⟨by nlinarith, by nlinarith⟩

/-! ### Grids -/

/-- The exponent to which a mantissa is cut: 53 bits are kept, fewer at the bottom. -/
theorem target_eq (m : ℕ) (e : ℤ) :
    Format.binary64.targetExponent (totalExponent m e) = max (m.log2 + e - 52) (-1074) := by
  simp only [Format.targetExponent, totalExponent, Format.mantissaBits, Format.minExponent]
  norm_num
  congr 1
  ring

section

variable {s : Sign} {m M : ℕ} {e E T : ℤ} {acc : Accuracy} {x : ℚ}

/-- The grid on which a number is rounded is that of the double in whose cell it lies, or the
finer one just below a power of two. -/
theorem grid_of_holds (hc : Canonical m e) (hT : -1074 ≤ T) (hx : x < 2 ^ 53)
    (hfull : 2 ^ 52 ≤ x ∨ T = -1074) {n : Bool}
    (h : (Binary.cell ⟨n, m, e⟩).Holds (x * 2 ^ T)) :
    e = T ∨ (e = T + 1 ∧ m = 2 ^ 52) := by
  have hcell : Near m (x * 2 ^ (T - e)) := by
    refine near_of_holds (b := ⟨n, m, e⟩) hc.pos ?_
    rwa [mul_assoc, ← zpow_add₀ (by norm_num), sub_add_cancel]
  obtain ⟨hlow, hhigh, -⟩ := hcell
  rcases lt_trichotomy e T with h1 | h1 | h1
  · exfalso
    have h2 : (2 : ℚ) ^ (1 : ℤ) ≤ 2 ^ (T - e) := zpow_le_zpow_right₀ (by norm_num) (by omega)
    have h3 : (2 : ℚ) ^ 52 ≤ x := hfull.resolve_right (by have := hc.least; omega)
    have h4 : (m : ℚ) + 1 ≤ 2 ^ 53 := by exact_mod_cast hc.lt
    nlinarith
  · exact Or.inl h1
  · right
    have h52 : 2 ^ 52 ≤ m := hc.full.resolve_right (by omega)
    have h52' : (2 : ℚ) ^ 52 ≤ m := by exact_mod_cast h52
    have hr := two_zpow_pos (T - e)
    have h2 : e = T + 1 := by
      by_contra hne
      have h3 : (2 : ℚ) ^ (T - e) ≤ 2 ^ (-2 : ℤ) := zpow_le_zpow_right₀ (by norm_num) (by omega)
      norm_num at h3
      nlinarith
    refine ⟨h2, le_antisymm ?_ h52⟩
    rw [h2, show T - (T + 1) = -1 by ring, zpow_neg_one] at hlow
    have h3 : (m : ℚ) < 2 ^ 52 + 1 := by linarith
    norm_cast at h3
    omega

theorem shift_eq (hE : E ≤ T) : Float.Model.UnpackedFloat.shiftToExponent M E acc T =
    (ExtendedMantissa.ofMantissaAndAccuracy M acc >>> (T - E).toNat, T) := by
  simp only [Float.Model.UnpackedFloat.shiftToExponent, Prod.mk.injEq, true_and]
  omega

/-- A mantissa of at most 53 bits stays as it is. -/
theorem shift_stays (hm : m < 2 ^ 53) (hT : -1074 ≤ T) :
    UnpackedFloat.shiftToTargetExponent Format.binary64 m T .exact = (⟨m, false, false⟩, T) := by
  have hlog : m.log2 < 53 := by
    rcases Nat.eq_zero_or_pos m with rfl | hpos
    · decide
    · exact (Nat.log2_lt hpos.ne').mpr hm
  have hzero : (max ((m.log2 : ℤ) + T - 52) (-1074) - T).toNat = 0 := by omega
  simp only [UnpackedFloat.shiftToTargetExponent, target_eq, UnpackedFloat.shiftToExponent, hzero]
  simp only [Nat.cast_zero, add_zero]
  rfl

/-- A mantissa that was rounded up to 54 bits loses its last, which is zero. -/
theorem shift_carries (hT : -1074 ≤ T) :
    UnpackedFloat.shiftToTargetExponent Format.binary64 (2 ^ 53) T .exact =
      (⟨2 ^ 52, false, false⟩, T + 1) := by
  have hone : (max (((2 ^ 53 : ℕ).log2 : ℤ) + T - 52) (-1074) - T).toNat = 1 := by
    rw [Nat.log2_two_pow]
    omega
  simp only [UnpackedFloat.shiftToTargetExponent, target_eq, UnpackedFloat.shiftToExponent, hone]
  rfl

/-- A mantissa that was cut, and what it stands for on the grid of its exponent: a number of 53
bits, or of fewer at the bottom. -/
structure OnGrid (em : ExtendedMantissa) (T : ℤ) (y : ℚ) : Prop where
  marks : Marks em y
  least : -1074 ≤ T
  lt : y < 2 ^ 53
  full : 2 ^ 52 ≤ y ∨ T = -1074

/-- Cutting puts a number on its grid. -/
theorem onGrid_shift (hx : Marks (ExtendedMantissa.ofMantissaAndAccuracy M acc) x)
    (hE : E ≤ max (M.log2 + E - 52) (-1074)) :
    ∃ em T y, UnpackedFloat.shiftToTargetExponent Format.binary64 M E acc = (em, T) ∧
      OnGrid em T y ∧ y * 2 ^ T = x * 2 ^ E := by
  have hmant : (ExtendedMantissa.ofMantissaAndAccuracy M acc).mantissa = M := by
    rcases acc with _ | (_ | _ | _) <;> rfl
  have hMx := hx.le
  have hxM := hx.lt
  rw [hmant] at hMx hxM
  generalize hT : max ((M.log2 : ℤ) + E - 52) (-1074) = T at hE
  refine ⟨ExtendedMantissa.ofMantissaAndAccuracy M acc >>> (T - E).toNat, T,
    x / 2 ^ (T - E).toNat, ?_, ⟨hx.shiftRight _, by omega, ?_, ?_⟩, ?_⟩
  · rw [UnpackedFloat.shiftToTargetExponent, target_eq, hT, shift_eq hE]
  · rw [div_lt_iff₀ (by positivity), ← pow_add]
    have h1 : M + 1 ≤ 2 ^ (M.log2 + 1) := Nat.lt_log2_self
    have h2 : 2 ^ (M.log2 + 1) ≤ 2 ^ (53 + (T - E).toNat) :=
      Nat.pow_le_pow_right (by norm_num) (by omega)
    have h3 : (M : ℚ) + 1 ≤ 2 ^ (53 + (T - E).toNat) := by exact_mod_cast h1.trans h2
    linarith
  · by_cases hmin : T = -1074
    · exact Or.inr hmin
    · left
      rw [le_div_iff₀ (by positivity), ← pow_add]
      have hM : M ≠ 0 := by
        rintro rfl
        simp at hT
        omega
      have h1 : 2 ^ M.log2 ≤ M := Nat.log2_self_le hM
      rw [show M.log2 = 52 + (T - E).toNat by omega] at h1
      have h2 : (2 : ℚ) ^ (52 + (T - E).toNat) ≤ M := by exact_mod_cast h1
      linarith
  · have hpow : (2 : ℚ) ^ E = 2 ^ T / 2 ^ (T - E).toNat := by
      rw [← zpow_natCast, Int.toNat_of_nonneg (by omega), ← zpow_sub₀ (by norm_num)]
      congr 1
      ring
    rw [hpow, ← mul_div_assoc, mul_div_right_comm]

/-- **A number in the cell of a double is rounded to that double.** -/
theorem round_of_holds (hc : Canonical m e)
    (hx : Marks (ExtendedMantissa.ofMantissaAndAccuracy M acc) x)
    (hE : E ≤ max (M.log2 + E - 52) (-1074)) {n : Bool}
    (h : (Binary.cell ⟨n, m, e⟩).Holds (x * 2 ^ E)) :
    UnpackedFloat.roundWithAccuracy Format.binary64 s M E acc = .finite s m e hc.pos := by
  obtain ⟨em, T, y, hfirst, hgrid, hvalue⟩ := onGrid_shift hx hE
  rw [← hvalue] at h
  rcases grid_of_holds hc hgrid.least hgrid.lt hgrid.full h with rfl | ⟨rfl, rfl⟩
  · have hround := hgrid.marks.rounded (near_of_holds (b := ⟨n, m, e⟩) hc.pos h)
    simp only [UnpackedFloat.roundWithAccuracy, hfirst, hround, shift_stays hc.lt hgrid.least,
      hc.pos.ne', dite_false]
  · have hlow := low_of_holds (b := ⟨n, 2 ^ 52, T + 1⟩) rfl (by have := hgrid.least; simp only; omega) h
    rw [add_sub_cancel_right, mul_le_mul_iff_left₀ (two_zpow_pos T)] at hlow
    have hround := hgrid.marks.rounded (k := 2 ^ 53)
      ⟨by push_cast; linarith, by push_cast; linarith [hgrid.lt], fun h => absurd h (by decide)⟩
    simp only [UnpackedFloat.roundWithAccuracy, hfirst, hround, shift_carries hgrid.least,
      hc.pos.ne', dite_false]

theorem marks_exact (M : ℕ) : Marks (ExtendedMantissa.ofMantissaAndAccuracy M .exact) M := rfl

theorem marks_div (a : ℕ) {b : ℕ} (hb : 0 < b) :
    Marks (ExtendedMantissa.ofMantissaAndAccuracy (a / b)
      (UnpackedFloat.accuracyOfFraction (a % b) b)) (a / b) := by
  have hb' : (0 : ℚ) < b := by exact_mod_cast hb
  have ha : (a : ℚ) = b * (a / b : ℕ) + (a % b : ℕ) := by exact_mod_cast (Nat.div_add_mod a b).symm
  have hlt : ((a % b : ℕ) : ℚ) < b := by exact_mod_cast Nat.mod_lt a hb
  unfold UnpackedFloat.accuracyOfFraction
  split
  · rename_i h0
    rw [h0] at ha
    simp only [Marks, ExtendedMantissa.ofMantissaAndAccuracy]
    rw [ha]
    field_simp
    simp
  · rename_i h0
    have hpos : (0 : ℚ) < (a % b : ℕ) := by exact_mod_cast Nat.pos_of_ne_zero h0
    rcases lt_trichotomy (2 * (a % b)) b with h | h | h
    · rw [Nat.compare_eq_lt.mpr h]
      have h' : 2 * ((a % b : ℕ) : ℚ) < b := by exact_mod_cast h
      simp only [Marks, ExtendedMantissa.ofMantissaAndAccuracy]
      rw [ha, lt_div_iff₀ hb', div_lt_iff₀ hb']
      constructor <;> linarith
    · rw [Nat.compare_eq_eq.mpr h]
      have h' : 2 * ((a % b : ℕ) : ℚ) = b := by exact_mod_cast h
      simp only [Marks, ExtendedMantissa.ofMantissaAndAccuracy]
      rw [ha, div_eq_iff hb'.ne']
      linarith
    · rw [Nat.compare_eq_gt.mpr h]
      have h' : (b : ℚ) < 2 * (a % b : ℕ) := by exact_mod_cast h
      simp only [Marks, ExtendedMantissa.ofMantissaAndAccuracy]
      rw [ha, lt_div_iff₀ hb', div_lt_iff₀ hb']
      constructor <;> linarith

variable {s₁ s₂ : Sign} {m₁ m₂ : ℕ} {e₁ e₂ : ℤ}

/-- What an operation on finite numbers ends in: an exact number, above zero, that is rounded. -/
def Rounds (u : UnpackedFloat) (s : Sign) (v : ℚ) : Prop :=
  ∃ M E acc x, u = UnpackedFloat.roundWithAccuracy Format.binary64 s M E acc ∧
    Marks (ExtendedMantissa.ofMantissaAndAccuracy M acc) x ∧
    E ≤ max ((M.log2 : ℤ) + E - 52) (-1074) ∧ x * 2 ^ E = v

theorem Rounds.eq_of_holds {u : UnpackedFloat} {v : ℚ} (hu : Rounds u s v) (hc : Canonical m e)
    {n : Bool} (h : (Binary.cell ⟨n, m, e⟩).Holds v) : u = .finite s m e hc.pos := by
  obtain ⟨M, E, acc, x, rfl, hx, hE, rfl⟩ := hu
  exact round_of_holds hc hx hE h

/-- A product of at least 53 bits is rounded. -/
theorem mul_rounds (h₁ : 0 < m₁) (h₂ : 0 < m₂) (hlog : 52 ≤ (m₁ * m₂).log2) :
    Rounds (UnpackedFloat.mul Format.binary64 (.finite s₁ m₁ e₁ h₁) (.finite s₂ m₂ e₂ h₂)) (s₁ * s₂)
      (m₁ * 2 ^ e₁ * (m₂ * 2 ^ e₂)) := by
  refine ⟨m₁ * m₂, e₁ + e₂, .exact, _, rfl, marks_exact _, by omega, ?_⟩
  rw [zpow_add₀ (by norm_num)]
  push_cast
  ring

/-- A quotient is rounded. -/
theorem div_rounds (h₁ : 0 < m₁) (h₂ : 0 < m₂) :
    Rounds (UnpackedFloat.div Format.binary64 (.finite s₁ m₁ e₁ h₁) (.finite s₂ m₂ e₂ h₂)) (s₁ / s₂)
      (m₁ * 2 ^ e₁ / (m₂ * 2 ^ e₂)) := by
  have htarget : Format.binary64.targetExponent (totalExponent m₁ e₁ - totalExponent m₂ e₂) =
      max (m₁.log2 + e₁ - (m₂.log2 + e₂) - 53) (-1074) := by
    simp only [Format.targetExponent, totalExponent, Format.mantissaBits, Format.minExponent]
    norm_num
    congr 1
    ring
  simp only [UnpackedFloat.div, UnpackedFloat.divCore, htarget]
  generalize hE : min (e₁ - e₂) (max ((m₁.log2 : ℤ) + e₁ - (m₂.log2 + e₂) - 53) (-1074)) = E
  refine ⟨_, E, _, _, rfl, marks_div _ h₂, ?_, ?_⟩
  · rcases le_or_gt E (-1074) with hl | hl
    · omega
    · have hlog : m₂.log2 + 1 + 52 ≤ m₁.log2 + (e₁ - e₂ - E).toNat := by omega
      have h52 : 2 ^ 52 ≤ m₁ <<< (e₁ - e₂ - E).toNat / m₂ := by
        rw [Nat.le_div_iff_mul_le h₂, Nat.shiftLeft_eq]
        calc 2 ^ 52 * m₂ ≤ 2 ^ 52 * 2 ^ (m₂.log2 + 1) :=
              Nat.mul_le_mul_left _ Nat.lt_log2_self.le
          _ = 2 ^ (m₂.log2 + 1 + 52) := by rw [← pow_add, Nat.add_comm]
          _ ≤ 2 ^ (m₁.log2 + (e₁ - e₂ - E).toNat) := Nat.pow_le_pow_right (by norm_num) hlog
          _ ≤ m₁ * 2 ^ (e₁ - e₂ - E).toNat := by
              rw [pow_add]
              exact Nat.mul_le_mul_right _ (Nat.log2_self_le h₁.ne')
      have := (Nat.le_log2 (by omega)).mpr h52
      omega
  · have hE' : (2 : ℚ) ^ (e₁ - e₂ - E).toNat = 2 ^ e₁ / 2 ^ e₂ / 2 ^ E := by
      rw [← zpow_natCast, Int.toNat_of_nonneg (by omega), zpow_sub₀ (by norm_num),
        zpow_sub₀ (by norm_num)]
    rw [Nat.shiftLeft_eq]
    push_cast
    rw [hE']
    have := two_zpow_pos E
    have := two_zpow_pos e₂
    field_simp

theorem div_of_holds (hc : Canonical m e) (h₁ : 0 < m₁) (h₂ : 0 < m₂) {n : Bool}
    (h : (Binary.cell ⟨n, m, e⟩).Holds (m₁ * 2 ^ e₁ / (m₂ * 2 ^ e₂))) :
    UnpackedFloat.div Format.binary64 (.finite s₁ m₁ e₁ h₁) (.finite s₂ m₂ e₂ h₂) =
      .finite (s₁ / s₂) m e hc.pos :=
  (div_rounds h₁ h₂).eq_of_holds hc h

end

end Double
end ShapeCodec
