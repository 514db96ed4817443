/-
# Rows of digits

What the reader and the writer of numbers do with rows of decimal digits. A row in front of what
is no digit is read as that row, and the row of a whole number has the value of the number. The
digits of a decimal are written without the zeros at their end, which the exponent makes up for.

Key definitions: `Json.AllDigits`, `Json.NoDigit`.
Key theorems: `Json.takeWhile_digits`, `natOfDigits_append`, `natOfDigits_toDigits`,
`significantDigits_spec`.
-/
import Mathlib
import ShapeCodec.Json.Reader

namespace ShapeCodec

/-! ### Values of rows -/

theorem natOfDigits_eq (ds : List Char) : natOfDigits ds = Nat.ofDigitChars 10 ds 0 := rfl

theorem natOfDigits_append (ds es : List Char) :
    natOfDigits (ds ++ es) = 10 ^ es.length * natOfDigits ds + natOfDigits es := by
  rw [natOfDigits_eq, Nat.ofDigitChars_append, Nat.ofDigitChars_eq_ofDigitChars_zero]
  rfl

theorem natOfDigits_zeros (k : ℕ) : natOfDigits (List.replicate k '0') = 0 := by
  rw [natOfDigits_eq, Nat.ofDigitChars_replicate_zero, Nat.mul_zero]

theorem natOfDigits_toDigits (n : ℕ) : natOfDigits (Nat.toDigits 10 n) = n :=
  Nat.ofDigitChars_ten_toDigits

namespace Json

/-- A row of digits and nothing else. -/
def AllDigits (ds : List Char) : Prop := ∀ c ∈ ds, c.isDigit = true

/-- A text that does not carry on a row of digits. -/
def NoDigit (rest : List Char) : Prop := ∀ c, rest.head? = some c → c.isDigit = false

theorem takeWhile_noDigit {rest : List Char} (h : NoDigit rest) :
    rest.takeWhile Char.isDigit = [] ∧ rest.dropWhile Char.isDigit = rest := by
  cases rest with
  | nil => exact ⟨rfl, rfl⟩
  | cons c rest =>
    have hc : c.isDigit = false := h c rfl
    simp [hc]

/-- A row of digits is read up to what is no digit. -/
theorem takeWhile_digits {ds rest : List Char} (hd : AllDigits ds) (hr : NoDigit rest) :
    (ds ++ rest).takeWhile Char.isDigit = ds ∧ (ds ++ rest).dropWhile Char.isDigit = rest := by
  obtain ⟨htake, hdrop⟩ := takeWhile_noDigit hr
  rw [List.takeWhile_append_of_pos hd, List.dropWhile_append_of_pos hd, htake, hdrop,
    List.append_nil]
  exact ⟨rfl, rfl⟩

theorem allDigits_toDigits (n : ℕ) : AllDigits (Nat.toDigits 10 n) := fun _ hc =>
  Nat.isDigit_of_mem_toDigits (by norm_num) (by norm_num) hc

theorem allDigits_zeros (k : ℕ) : AllDigits (List.replicate k '0') := fun c hc => by
  rw [List.eq_of_mem_replicate hc]
  rfl

theorem AllDigits.append {ds es : List Char} (hd : AllDigits ds) (he : AllDigits es) :
    AllDigits (ds ++ es) := fun c hc => (List.mem_append.mp hc).elim (hd c) (he c)

theorem AllDigits.subset {ds es : List Char} (hd : AllDigits ds) (h : es ⊆ ds) : AllDigits es :=
  fun c hc => hd c (h hc)

/-- A number above zero does not begin with a zero. -/
theorem head_toDigits {n : ℕ} (hn : 0 < n) : (Nat.toDigits 10 n).head? ≠ some '0' := by
  induction n using Nat.base_induction 10 (by norm_num) with
  | single k hk =>
    rw [Nat.toDigits_of_lt_base hk, List.head?_cons, ne_eq, Option.some.injEq,
      Nat.digitChar_eq_zero]
    exact hn.ne'
  | digit d k hd hk ih =>
    rw [← Nat.toDigits_append_toDigits (by norm_num) hk hd,
      List.head?_append_of_ne_nil _ Nat.toDigits_ne_nil]
    exact ih hk

end Json

/-! ### Significant digits -/

/-- The digits of a number above zero are its significant digits and zeros after them. -/
theorem significantDigits_spec {n : ℕ} (hn : 0 < n) :
    significantDigits n ≠ [] ∧
      ∃ k, Nat.toDigits 10 n = significantDigits n ++ List.replicate k '0' := by
  have hsplit := List.takeWhile_append_dropWhile (p := (· == '0')) (l := (Nat.toDigits 10 n).reverse)
  have hzeros : (Nat.toDigits 10 n).reverse.takeWhile (· == '0') =
      List.replicate ((Nat.toDigits 10 n).reverse.takeWhile (· == '0')).length '0' :=
    List.eq_replicate_of_mem fun c hc => by simpa using List.mem_takeWhile_imp hc
  generalize (Nat.toDigits 10 n).reverse.takeWhile (· == '0') = zeros at hsplit hzeros
  have hdigits : Nat.toDigits 10 n =
      ((Nat.toDigits 10 n).reverse.dropWhile (· == '0')).reverse
        ++ List.replicate zeros.length '0' := by
    have h := congrArg List.reverse hsplit
    rw [List.reverse_append, List.reverse_reverse] at h
    have hback : zeros.reverse = List.replicate zeros.length '0' := by
      conv_lhs => rw [hzeros, List.reverse_replicate]
    rw [hback] at h
    exact h.symm
  have hne : ((Nat.toDigits 10 n).reverse.dropWhile (· == '0')).reverse ≠ [] := by
    intro hnil
    rw [hnil, List.nil_append] at hdigits
    have hvalue := natOfDigits_toDigits n
    rw [hdigits, natOfDigits_zeros] at hvalue
    omega
  have hsig : significantDigits n = ((Nat.toDigits 10 n).reverse.dropWhile (· == '0')).reverse := by
    unfold significantDigits
    split
    · next h => exact absurd h hne
    · rfl
  rw [hsig]
  exact ⟨hne, _, hdigits⟩

end ShapeCodec
