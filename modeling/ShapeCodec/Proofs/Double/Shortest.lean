/-
# The shortest decimal reads back

The decimal that is written for a double lies in the cell of the double, so that it is read as
that double. Cells are searched on grids of powers of ten by whole numbers; `Cell.holds_iff`
says that this is the comparison of the exact numbers. The search cannot come to nothing: on the
grid of seventeen digits, whose step is less than a cell is wide, one of the two neighbours of the
double lies in its cell (`Double.grid_finds`).

Key theorems: `Cell.holds_iff`, `Double.leading_le`, `Double.grid_finds`,
`Double.shortest_holds`.
-/
import ShapeCodec.Proofs.Double.Decimal

namespace ShapeCodec

/-! ### Scales -/

theorem zpow_mul_toNat {b : ℚ} (hb : b ≠ 0) (k : ℤ) : b ^ k * b ^ (-k).toNat = b ^ k.toNat := by
  rw [← zpow_natCast, ← zpow_natCast, ← zpow_add₀ hb]
  congr 1
  omega

/-- Units and steps are multiplied by the same number, besides their powers. -/
theorem Cell.scales_eq (c : Cell) (place : ℤ) : ∃ D : ℚ, 0 < D ∧
    ((c.scales place).1 : ℚ) = 2 ^ c.unit * D ∧ ((c.scales place).2 : ℚ) = 10 ^ place * D := by
  refine ⟨2 ^ (-c.unit).toNat * 10 ^ (-place).toNat, by positivity, ?_, ?_⟩
  · rw [← mul_assoc, zpow_mul_toNat (by norm_num)]
    simp only [Cell.scales, Nat.pow_eq]
    push_cast
    rfl
  · rw [mul_left_comm, zpow_mul_toNat (by norm_num)]
    simp only [Cell.scales, Nat.pow_eq]
    push_cast
    rfl

/-- The comparison by whole numbers is that of the exact numbers. -/
theorem Cell.holds_iff (c : Cell) (place : ℤ) (k : ℕ) :
    c.holds place k = true ↔ c.Holds (k * 10 ^ place) := by
  obtain ⟨D, hD, hunits, hsteps⟩ := c.scales_eq place
  have hle : ∀ a b : ℕ, a * (c.scales place).1 ≤ b * (c.scales place).2 ↔
      (a : ℚ) * 2 ^ c.unit ≤ b * 10 ^ place := fun a b => by
    rw [← mul_le_mul_iff_left₀ hD, mul_assoc, mul_assoc, ← hunits, ← hsteps]
    exact_mod_cast Iff.rfl
  have hge : ∀ a b : ℕ, b * (c.scales place).2 ≤ a * (c.scales place).1 ↔
      (b : ℚ) * 10 ^ place ≤ a * 2 ^ c.unit := fun a b => by
    rw [← mul_le_mul_iff_left₀ hD, mul_assoc, mul_assoc, ← hunits, ← hsteps]
    exact_mod_cast Iff.rfl
  unfold Cell.holds Cell.Holds
  simp only
  by_cases hc : c.closed = true
  · rw [if_pos hc, if_pos hc, decide_eq_true_eq, hle, hge]
  · rw [if_neg hc, if_neg hc, decide_eq_true_eq, ← not_le, ← not_le, hle, hge, not_le, not_le]

theorem Cell.holds_of_onGrid? {c : Cell} {place : ℤ} {k : ℕ} (h : c.onGrid? place = some k) :
    c.holds place k = true := by
  unfold Cell.onGrid? at h
  simp only at h
  split at h
  · next hbelow habove =>
    split at h <;> obtain rfl := Option.some.inj h
    · exact hbelow
    · exact habove
  · next hbelow _ =>
    obtain rfl := Option.some.inj h
    exact hbelow
  · next _ habove =>
    obtain rfl := Option.some.inj h
    exact habove
  · cases h

/-- A grid has a point in the cell if one of the neighbours of the centre lies there. -/
theorem Cell.onGrid?_isSome {c : Cell} {place : ℤ}
    (h : c.holds place (c.centre * (c.scales place).1 / (c.scales place).2) = true ∨
      c.holds place (c.centre * (c.scales place).1 / (c.scales place).2 + 1) = true) :
    (c.onGrid? place).isSome := by
  unfold Cell.onGrid?
  simp only
  split
  · split <;> rfl
  · rfl
  · rfl
  · next hbelow habove =>
    rw [hbelow, habove] at h
    rcases h with h | h <;> cases h

namespace Double

/-! ### The leading digit -/

/-- The power of ten of the first digit is not above the centre. -/
theorem leading_le {c : Cell} (hcentre : 0 < c.centre) :
    (10 : ℚ) ^ c.leading ≤ c.centre * 2 ^ c.unit := by
  obtain ⟨D, hD, hunits, hsteps⟩ := c.scales_eq 0
  rw [zpow_zero, one_mul] at hsteps
  have hpos : (0 : ℚ) < c.centre * 2 ^ c.unit :=
    mul_pos (by exact_mod_cast hcentre) (two_zpow_pos c.unit)
  have hprod : ((c.centre * (c.scales 0).1 : ℕ) : ℚ) = c.centre * 2 ^ c.unit * D := by
    push_cast
    rw [hunits, mul_assoc]
  have hsteps_pos : 0 < (c.scales 0).2 := by
    have : (0 : ℚ) < ((c.scales 0).2 : ℚ) := by rw [hsteps]; exact hD
    exact_mod_cast this
  have hprod_pos : 0 < c.centre * (c.scales 0).1 := by
    have : (0 : ℚ) < ((c.centre * (c.scales 0).1 : ℕ) : ℚ) := by rw [hprod]; exact mul_pos hpos hD
    exact_mod_cast this
  unfold Cell.leading
  simp only
  generalize c.centre * (c.scales 0).1 = P at hprod hprod_pos ⊢
  generalize (c.scales 0).2 = S at hsteps hsteps_pos ⊢
  rw [← mul_le_mul_iff_left₀ hD, ← hprod, ← hsteps]
  split
  · next h =>
    have hq : 0 < P / S := Nat.div_pos h hsteps_pos
    have hten := ten_pow_le_digits hq
    have hnat : 10 ^ (digitCount (P / S) - 1) * S ≤ P :=
      (Nat.mul_le_mul_right S hten).trans (Nat.div_mul_le_self P S)
    rw [← Nat.cast_one, ← Nat.cast_sub (digitCount_pos _), zpow_natCast]
    exact_mod_cast hnat
  · next h =>
    have hten := digits_lt_ten_pow ((S - 1) / P)
    have hnat : S ≤ P * 10 ^ digitCount ((S - 1) / P) := by
      have h1 : S - 1 < P * ((S - 1) / P + 1) := Nat.lt_mul_div_succ (S - 1) hprod_pos
      have h2 : P * ((S - 1) / P + 1) ≤ P * 10 ^ digitCount ((S - 1) / P) :=
        Nat.mul_le_mul_left P hten
      omega
    rw [zpow_neg, zpow_natCast, inv_mul_le_iff₀ (by positivity), mul_comm]
    exact_mod_cast hnat

/-! ### The finest grid -/

theorem holds_of_inside {c : Cell} {v : ℚ} (hlow : c.low * 2 ^ c.unit < v)
    (hhigh : v < c.high * 2 ^ c.unit) : c.Holds v := by
  unfold Cell.Holds
  split
  · exact ⟨hlow.le, hhigh.le⟩
  · exact ⟨hlow, hhigh⟩

/-- The neighbours of the centre on a grid. -/
theorem neighbours (c : Cell) (place : ℤ) :
    ((c.centre * (c.scales place).1 / (c.scales place).2 : ℕ) : ℚ) * 10 ^ place
        ≤ c.centre * 2 ^ c.unit ∧
      c.centre * 2 ^ c.unit <
        ((c.centre * (c.scales place).1 / (c.scales place).2 + 1 : ℕ) : ℚ) * 10 ^ place := by
  obtain ⟨D, hD, hunits, hsteps⟩ := c.scales_eq place
  have hsteps_pos : 0 < (c.scales place).2 := by
    have : (0 : ℚ) < ((c.scales place).2 : ℚ) := by rw [hsteps]; positivity
    exact_mod_cast this
  have hprod : ((c.centre * (c.scales place).1 : ℕ) : ℚ) = c.centre * 2 ^ c.unit * D := by
    push_cast
    rw [hunits, mul_assoc]
  generalize c.centre * (c.scales place).1 = P at hprod ⊢
  generalize (c.scales place).2 = S at hsteps hsteps_pos ⊢
  constructor
  · rw [← mul_le_mul_iff_left₀ hD, ← hprod, mul_assoc, ← hsteps]
    exact_mod_cast Nat.div_mul_le_self P S
  · rw [← mul_lt_mul_iff_left₀ hD, ← hprod, mul_assoc, ← hsteps]
    exact_mod_cast (Nat.lt_div_mul_add hsteps_pos).trans_eq (by rw [Nat.add_mul, Nat.one_mul])

variable {m : ℕ} {e : ℤ} {n : Bool}

/-- One of the two neighbours `k * G` and `(k + 1) * G` of a double, in quarters of its last
place `U`, lies less than half a place from it if the step `G` is less than a place. -/
theorem neighbour_inside {k : ℕ} {G U : ℚ} (hU : 0 < U) (hm : (m : ℚ) < 2 ^ 53)
    (hstep : G * 10 ^ 16 ≤ 4 * m * U) (hbelow : k * G ≤ 4 * m * U)
    (habove : 4 * m * U < (k + 1) * G) :
    ((4 * m - 2) * U < k * G ∧ k * G < (4 * m + 2) * U) ∨
      ((4 * m - 2) * U < (k + 1) * G ∧ (k + 1) * G < (4 * m + 2) * U) := by
  by_cases hclose : (4 * (m : ℚ) - 2) * U < k * G
  · exact Or.inl ⟨hclose, by nlinarith⟩
  · exact Or.inr ⟨by nlinarith, by nlinarith⟩

/-- **Seventeen digits tell all doubles apart**: the step of that grid is less than a cell is
wide, so that one of the two neighbours of the centre is in the cell. -/
theorem grid_finds (hc : Canonical m e) :
    ((Binary.cell ⟨n, m, e⟩).onGrid? ((Binary.cell ⟨n, m, e⟩).leading - 16)).isSome := by
  have hlead := leading_le (c := Binary.cell ⟨n, m, e⟩) (by simp [Binary.cell, hc.pos])
  refine Cell.onGrid?_isSome ?_
  rw [Cell.holds_iff, Cell.holds_iff]
  obtain ⟨hbelow, habove⟩ :=
    neighbours (Binary.cell ⟨n, m, e⟩) ((Binary.cell ⟨n, m, e⟩).leading - 16)
  generalize (Binary.cell ⟨n, m, e⟩).centre * _ / _ = k at hbelow habove ⊢
  have hstep : (10 : ℚ) ^ ((Binary.cell ⟨n, m, e⟩).leading - 16) * 10 ^ 16
      = 10 ^ (Binary.cell ⟨n, m, e⟩).leading := by
    rw [zpow_sub₀ (by norm_num)]
    norm_num
  rw [← hstep] at hlead
  generalize (10 : ℚ) ^ ((Binary.cell ⟨n, m, e⟩).leading - 16) = G at hlead hbelow habove ⊢
  have hU := two_zpow_pos (e - 2)
  have hm : (m : ℚ) < 2 ^ 53 := by exact_mod_cast hc.lt
  have hcentre : ((Binary.cell ⟨n, m, e⟩).centre : ℚ) = 4 * m := by simp [Binary.cell]
  have hunit : (Binary.cell ⟨n, m, e⟩).unit = e - 2 := rfl
  have hhigh : ((Binary.cell ⟨n, m, e⟩).high : ℚ) = 4 * m + 2 := by simp [Binary.cell]
  rw [hcentre, hunit] at hlead hbelow habove
  push_cast at habove
  have hinside : ∀ j : ℕ, ((Binary.cell ⟨n, m, e⟩).low : ℚ) * 2 ^ (e - 2) < j * G →
      (j : ℚ) * G < (4 * m + 2) * 2 ^ (e - 2) → (Binary.cell ⟨n, m, e⟩).Holds (j * G) :=
    fun j hl hh => holds_of_inside (by rw [hunit]; exact hl) (by rw [hunit, hhigh]; exact hh)
  by_cases hpow : m = 2 ^ 52 ∧ -1074 < e
  · -- a power of two: the step is less than half a place, so the neighbour above is inside
    have hlow : ((Binary.cell ⟨n, m, e⟩).low : ℚ) ≤ 4 * m := by
      exact_mod_cast Nat.sub_le (4 * m) _
    have hm52 : (m : ℚ) = 2 ^ 52 := by exact_mod_cast hpow.1
    rw [hm52] at hlead habove hbelow hlow
    refine Or.inr (hinside (k + 1) ?_ ?_)
    · push_cast
      nlinarith
    · push_cast
      rw [hm52]
      nlinarith
  · have hlow : ((Binary.cell ⟨n, m, e⟩).low : ℚ) = 4 * m - 2 := by
      simp only [Binary.cell, Nat.pow_eq, if_neg hpow]
      have := hc.pos
      rw [Nat.cast_sub (by omega)]
      push_cast
      rfl
    rw [hlow] at hinside
    rcases neighbour_inside hU hm hlead hbelow habove with ⟨hl, hh⟩ | ⟨hl, hh⟩
    · exact Or.inl (hinside k hl hh)
    · exact Or.inr (hinside (k + 1) (by exact_mod_cast hl) (by exact_mod_cast hh))

/-- **The shortest decimal of a double lies in its cell.** -/
theorem shortest_holds (hc : Canonical m e) :
    (Binary.cell ⟨n, m, e⟩).Holds
      ((Binary.shortest ⟨n, m, e⟩).digits * 10 ^ (Binary.shortest ⟨n, m, e⟩).exponent) := by
  have hshort : Binary.shortest ⟨n, m, e⟩ = (Binary.cell ⟨n, m, e⟩).shortest :=
    if_neg hc.pos.ne'
  rw [hshort]
  generalize hcell : Binary.cell ⟨n, m, e⟩ = c
  unfold Cell.shortest
  simp only
  cases hsearch : (List.range 17).findSome? fun i : ℕ =>
      (c.onGrid? (c.leading - Int.ofNat i)).map fun k => (⟨k, c.leading - Int.ofNat i⟩ : Decimal) with
  | none =>
    have hlast := List.findSome?_eq_none_iff.mp hsearch 16 (by decide)
    have hfinds := grid_finds (n := n) hc
    rw [hcell] at hfinds
    rw [Option.map_eq_none_iff] at hlast
    rw [show c.leading - 16 = c.leading - Int.ofNat 16 from rfl, hlast] at hfinds
    cases hfinds
  | some d =>
    obtain ⟨i, -, hi⟩ := List.exists_of_findSome?_eq_some hsearch
    obtain ⟨k, hk, rfl⟩ := Option.map_eq_some_iff.mp hi
    exact (c.holds_iff _ k).mp (Cell.holds_of_onGrid? hk)

end Double
end ShapeCodec
