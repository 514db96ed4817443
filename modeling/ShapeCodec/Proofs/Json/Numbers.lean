/-
# Numbers read back

A number in front of what does not carry it on is read back from its text. A whole number is
written by its digits and has neither a point nor an exponent, so that it is read as a whole
number again. A double is written by the digits of its shortest decimal, positional or with an
exponent; whichever it is, what is read has the value of that decimal, which lies in the cell of
the double. The words for the values that are not finite are read as words before they could be
taken for numbers.

Key definitions: `Json.Ends`, `Json.readPlain`.
Key theorems: `Json.scanMagnitude_writeDigits`, `Json.readPlain_int`, `Json.readPlain_float`.
-/
import ShapeCodec.Json.Printer
import ShapeCodec.Proofs.Double.Shortest
import ShapeCodec.Proofs.Json.Digits

namespace ShapeCodec
namespace Json

variable {ds rest : List Char}

/-! ### Parts of a number -/

/-- A text that does not carry on a number. -/
def Ends (rest : List Char) : Prop :=
  ∀ c, rest.head? = some c → c.isDigit = false ∧ c ≠ '.' ∧ c ≠ 'e' ∧ c ≠ 'E'

theorem Ends.noDigit (h : Ends rest) : NoDigit rest := fun c hc => (h c hc).1

theorem ends_cons {c : Char} (hc : c.isDigit = false ∧ c ≠ '.' ∧ c ≠ 'e' ∧ c ≠ 'E') :
    Ends (c :: rest) := by
  rintro _ ⟨⟩
  exact hc

theorem noDigit_cons {c : Char} (hc : c.isDigit = false) : NoDigit (c :: rest) := by
  rintro _ ⟨⟩
  exact hc

theorem scanWhole_digits (rest : List Char) (hd : AllDigits ds) (hne : ds ≠ [])
    (hzero : ds.head? ≠ some '0') (hr : NoDigit rest) : scanWhole (ds ++ rest) = some (ds, rest) := by
  obtain ⟨htake, hdrop⟩ := takeWhile_digits hd hr
  unfold scanWhole
  split
  · next h =>
    obtain ⟨d, ds, rfl⟩ := List.exists_cons_of_ne_nil hne
    obtain ⟨rfl, -⟩ := List.cons.inj h
    exact absurd rfl hzero
  · simp only [htake, hdrop, List.isEmpty_iff, hne, if_false]

theorem scanWhole_zero (rest : List Char) :
    scanWhole (['0'] ++ '.' :: rest) = some (['0'], '.' :: rest) := rfl

theorem scanFraction_digits (hd : AllDigits ds) (hne : ds ≠ []) (hr : NoDigit rest) :
    scanFraction ('.' :: (ds ++ rest)) = (some ds, rest) := by
  obtain ⟨htake, hdrop⟩ := takeWhile_digits hd hr
  unfold scanFraction
  simp only [htake, hdrop, List.isEmpty_iff, hne, if_false]

theorem scanFraction_none (h : rest.head? ≠ some '.') : scanFraction rest = (none, rest) := by
  unfold scanFraction
  split
  · exact absurd rfl h
  · rfl

theorem scanExponentDigits_digits (negative : Bool) (hd : AllDigits ds) (hne : ds ≠ [])
    (hr : NoDigit rest) : scanExponentDigits negative (ds ++ rest) =
      some (if negative then -(natOfDigits ds : ℤ) else natOfDigits ds, rest) := by
  obtain ⟨htake, hdrop⟩ := takeWhile_digits hd hr
  unfold scanExponentDigits
  simp only [htake, hdrop, List.isEmpty_iff, hne, if_false]
  rfl

theorem scanExponent_none (h : ∀ c, rest.head? = some c → c ≠ 'e' ∧ c ≠ 'E') :
    scanExponent rest = none := by
  cases rest with
  | nil => rfl
  | cons c rest =>
    obtain ⟨he, hE⟩ := h c rfl
    simp [scanExponent, he, hE]

/-- An exponent is written as a sign and digits. -/
theorem writeExponent_eq (e : ℤ) : ∃ padded : List Char,
    writeExponent e = (if e < 0 then '-' else '+') :: padded ∧ AllDigits padded ∧ padded ≠ [] ∧
      natOfDigits padded = e.natAbs := by
  have hdigits := allDigits_toDigits e.natAbs
  by_cases hlen : (Nat.toDigits 10 e.natAbs).length < 2
  · refine ⟨'0' :: Nat.toDigits 10 e.natAbs, by simp [writeExponent, hlen],
      (allDigits_zeros 1).append hdigits, by simp, ?_⟩
    exact natOfDigits_toDigits e.natAbs
  · exact ⟨Nat.toDigits 10 e.natAbs, by simp [writeExponent, hlen], hdigits,
      Nat.toDigits_ne_nil, natOfDigits_toDigits e.natAbs⟩

/-- A written exponent is read back. -/
theorem scanExponent_write (e : ℤ) (hr : NoDigit rest) :
    scanExponent ('e' :: (writeExponent e ++ rest)) = some (e, rest) := by
  obtain ⟨padded, hwrite, hdigits, hne, hvalue⟩ := writeExponent_eq e
  rw [hwrite]
  by_cases hneg : e < 0
  · rw [if_pos hneg]
    show scanExponentDigits true (padded ++ rest) = _
    rw [scanExponentDigits_digits true hdigits hne hr, hvalue]
    simp only [if_true, Option.some.injEq, Prod.mk.injEq, and_true]
    omega
  · rw [if_neg hneg]
    show scanExponentDigits false (padded ++ rest) = _
    rw [scanExponentDigits_digits false hdigits hne hr, hvalue]
    simp only [Bool.false_eq_true, if_false, Option.some.injEq, Prod.mk.injEq, and_true]
    omega

/-! ### Decimals -/

/-- A number with a point and digits on both sides of it. -/
theorem scanMagnitude_positional (negative : Bool) {whole fraction : List Char}
    (hscan : scanWhole (whole ++ '.' :: (fraction ++ rest)) = some (whole, '.' :: (fraction ++ rest)))
    (hf : AllDigits fraction) (hne : fraction ≠ []) (hr : Ends rest) :
    scanMagnitude negative (whole ++ '.' :: (fraction ++ rest)) =
      some (.float (floatOfDecimal negative (natOfDigits (whole ++ fraction))
        (-(fraction.length : ℤ))), rest) := by
  unfold scanMagnitude
  rw [hscan]
  simp only [Option.bind_eq_bind, Option.bind_some, scanFraction_digits hf hne hr.noDigit,
    scanExponent_none fun c hc => (hr c hc).2.2]
  rfl

/-- A number of one digit, and of more after a point, with an exponent. -/
theorem scanMagnitude_scientific (negative : Bool) {d : Char} {fraction : List Char} (e : ℤ)
    (hd : d.isDigit = true) (hzero : d ≠ '0') (hf : AllDigits fraction) (hr : NoDigit rest) :
    scanMagnitude negative
        ([d] ++ ((if fraction = [] then [] else '.' :: fraction) ++
          'e' :: (writeExponent e ++ rest))) =
      some (.float (floatOfDecimal negative (natOfDigits ([d] ++ fraction))
        (e - (fraction.length : ℤ))), rest) := by
  have hone : AllDigits [d] := fun c hc => by rw [List.mem_singleton.mp hc]; exact hd
  have hnoexp : NoDigit ('e' :: (writeExponent e ++ rest)) := noDigit_cons rfl
  have hnopoint : ('e' :: (writeExponent e ++ rest)).head? ≠ some '.' := by simp
  have hscan := scanWhole_digits ((if fraction = [] then [] else '.' :: fraction) ++
    'e' :: (writeExponent e ++ rest)) hone (by simp) (by simpa using hzero)
    (by split <;> exact noDigit_cons rfl)
  unfold scanMagnitude
  rw [hscan]
  by_cases hnil : fraction = []
  · subst hnil
    simp only [Option.bind_eq_bind, Option.bind_some, if_true, List.nil_append,
      scanFraction_none hnopoint, scanExponent_write e hr]
    rfl
  · simp only [Option.bind_eq_bind, Option.bind_some, hnil, if_false, List.cons_append,
      scanFraction_digits hf hnil hnoexp, scanExponent_write e hr]
    rfl

/-- What is read of digits has the value that they were written with, their first for
`10 ^ leading`. -/
def ReadsDigits (negative : Bool) (ds : List Char) (leading : ℤ) (rest text : List Char) : Prop :=
  ∃ D E, scanMagnitude negative text = some (.float (floatOfDecimal negative D E), rest) ∧
    (D : ℚ) * 10 ^ E = natOfDigits ds * 10 ^ (leading + 1 - ds.length)

theorem readsDigits_scientific (negative : Bool) (leading : ℤ) (hd : AllDigits ds) (hne : ds ≠ [])
    (hzero : ds.head? ≠ some '0') (hr : Ends rest) :
    ReadsDigits negative ds leading rest
      (ds.take 1 ++ (if ds.length ≤ 1 then [] else '.' :: ds.drop 1) ++
        'e' :: writeExponent leading ++ rest) := by
  obtain ⟨d, fraction, rfl⟩ := List.exists_cons_of_ne_nil hne
  have hf : AllDigits fraction := hd.subset (List.subset_cons_self d fraction)
  have hfirst : d.isDigit = true := hd d (by simp)
  have hread := scanMagnitude_scientific negative leading hfirst (by simpa using hzero) hf hr.noDigit
  have htext : (d :: fraction).take 1 ++ (if (d :: fraction).length ≤ 1 then []
      else '.' :: (d :: fraction).drop 1) ++ 'e' :: writeExponent leading ++ rest =
      [d] ++ ((if fraction = [] then [] else '.' :: fraction) ++
        'e' :: (writeExponent leading ++ rest)) := by
    simp [List.append_assoc]
  rw [htext]
  refine ⟨_, _, hread, ?_⟩
  rw [List.singleton_append, List.length_cons]
  congr 2
  push_cast
  ring

theorem readsDigits_small (negative : Bool) {leading : ℤ} (hneg : leading < 0) (hd : AllDigits ds)
    (hne : ds ≠ []) (hr : Ends rest) :
    ReadsDigits negative ds leading rest
      ('0' :: '.' :: (List.replicate ((-leading).toNat - 1) '0' ++ ds) ++ rest) := by
  have hread := scanMagnitude_positional negative (scanWhole_zero _)
    ((allDigits_zeros ((-leading).toNat - 1)).append hd) (by simp [hne]) hr
  refine ⟨_, _, hread, ?_⟩
  rw [natOfDigits_append, natOfDigits_append, natOfDigits_zeros, List.length_append,
    List.length_replicate]
  have hzero : natOfDigits ['0'] = 0 := rfl
  rw [hzero, Nat.mul_zero, Nat.mul_zero, Nat.zero_add, Nat.zero_add]
  congr 2
  push_cast
  omega

theorem readsDigits_whole (negative : Bool) {leading : ℤ} (hpos : 0 ≤ leading) (hd : AllDigits ds)
    (hne : ds ≠ []) (hzero : ds.head? ≠ some '0') (hr : Ends rest) :
    ReadsDigits negative ds leading rest
      (ds.take (leading.toNat + 1) ++ List.replicate (leading.toNat + 1 - ds.length) '0' ++
        '.' :: (if ds.length ≤ leading.toNat + 1 then ['0'] else ds.drop (leading.toNat + 1)) ++
        rest) := by
  by_cases hlen : ds.length ≤ leading.toNat + 1
  · rw [if_pos hlen, List.take_of_length_le hlen]
    have hwhole : AllDigits (ds ++ List.replicate (leading.toNat + 1 - ds.length) '0') :=
      hd.append (allDigits_zeros _)
    have hscan := scanWhole_digits ('.' :: (['0'] ++ rest)) hwhole (by simp [hne])
      (by rwa [List.head?_append_of_ne_nil _ hne]) (noDigit_cons rfl)
    have hread := scanMagnitude_positional negative hscan (allDigits_zeros 1) (by simp) hr
    rw [List.append_assoc, List.cons_append]
    refine ⟨_, _, hread, ?_⟩
    have hlast : natOfDigits ['0'] = 0 := rfl
    rw [natOfDigits_append, natOfDigits_append, natOfDigits_zeros, hlast, List.length_replicate,
      List.length_singleton, Nat.add_zero, Nat.add_zero]
    have hexp : leading + 1 - ds.length = ((leading.toNat + 1 - ds.length : ℕ) : ℤ) := by omega
    rw [hexp, zpow_natCast]
    push_cast
    rw [zpow_neg_one]
    ring
  · rw [if_neg hlen, show leading.toNat + 1 - ds.length = 0 by omega, List.replicate_zero,
      List.append_nil]
    have hwhole : AllDigits (ds.take (leading.toNat + 1)) := hd.subset (List.take_subset _ _)
    have hfraction : AllDigits (ds.drop (leading.toNat + 1)) := hd.subset (List.drop_subset _ _)
    have hne' : ds.drop (leading.toNat + 1) ≠ [] := by
      rw [ne_eq, List.drop_eq_nil_iff]
      exact hlen
    have hscan := scanWhole_digits ('.' :: (ds.drop (leading.toNat + 1) ++ rest)) hwhole
      (by simp [hne]) (by rwa [List.head?_take, if_neg (by omega)]) (noDigit_cons rfl)
    have hread := scanMagnitude_positional negative hscan hfraction hne' hr
    rw [List.append_assoc, List.cons_append]
    refine ⟨_, _, hread, ?_⟩
    rw [List.take_append_drop, List.length_drop]
    congr 2
    omega

/-- **Written digits are read with their value**, whatever the notation. -/
theorem scanMagnitude_writeDigits (negative : Bool) (leading : ℤ) (hd : AllDigits ds)
    (hne : ds ≠ []) (hzero : ds.head? ≠ some '0') (hr : Ends rest) :
    ReadsDigits negative ds leading rest (writeDigits ds leading ++ rest) := by
  unfold writeDigits
  split
  · exact readsDigits_scientific negative leading hd hne hzero hr
  · split
    · next hneg => exact readsDigits_small negative hneg hd hne hr
    · next hneg => exact readsDigits_whole negative (not_lt.mp hneg) hd hne hzero hr

/-! ### Whole numbers -/

theorem head_of_allDigits (hd : AllDigits ds) (hne : ds ≠ []) :
    ∃ d tail, ds = d :: tail ∧ d.isDigit = true := by
  obtain ⟨d, tail, rfl⟩ := List.exists_cons_of_ne_nil hne
  exact ⟨d, tail, rfl, hd d (by simp)⟩

theorem scanWhole_toDigits (n : ℕ) (hr : NoDigit rest) :
    scanWhole (Nat.toDigits 10 n ++ rest) = some (Nat.toDigits 10 n, rest) := by
  rcases Nat.eq_zero_or_pos n with rfl | hn
  · rfl
  · exact scanWhole_digits _ (allDigits_toDigits n) Nat.toDigits_ne_nil (head_toDigits hn) hr

theorem scanMagnitude_toDigits (negative : Bool) (n : ℕ) (hr : Ends rest) :
    scanMagnitude negative (Nat.toDigits 10 n ++ rest) =
      some (.int (if negative then -(n : ℤ) else n), rest) := by
  unfold scanMagnitude
  rw [scanWhole_toDigits n hr.noDigit]
  have hfraction : scanFraction rest = (none, rest) :=
    scanFraction_none fun h => (hr _ h).2.1 rfl
  simp only [Option.bind_eq_bind, Option.bind_some, hfraction,
    scanExponent_none fun c hc => (hr c hc).2.2, Option.getD_none, List.append_nil,
    natOfDigits_toDigits]
  rfl

/-! ### Plain text -/

/-- Reads a word or a number. -/
def readPlain (s : List Char) : Option (Value × List Char) := (readWord s).or (scanNumber s)

theorem readWord_digit {d : Char} (hd : d.isDigit = true) : readWord (d :: rest) = none := by
  have hne : ∀ c : Char, c.isDigit = false → (c == d) = false := fun c hc => by
    rw [beq_eq_false_iff_ne]
    rintro rfl
    rw [hc] at hd
    cases hd
  simp [readWord, words, afterWord?, hne 'n' rfl, hne 't' rfl, hne 'f' rfl, hne 'N' rfl,
    hne 'I' rfl, hne '-' rfl]

theorem readWord_minus_digit {d : Char} (hd : d.isDigit = true) :
    readWord ('-' :: d :: rest) = none := by
  have hne : ('I' == d) = false := by
    rw [beq_eq_false_iff_ne]
    rintro rfl
    cases hd
  simp [readWord, words, afterWord?, hne]

/-- Without a minus, what begins with a digit is read as a number. -/
theorem readPlain_digits {text : List Char} {d : Char} {tail : List Char} (h : text = d :: tail)
    (hd : d.isDigit = true) : readPlain text = scanMagnitude false text := by
  subst h
  rw [readPlain, readWord_digit hd, Option.none_or]
  unfold scanNumber
  split
  · next h =>
    obtain ⟨rfl, -⟩ := List.cons.inj h
    cases hd
  · rfl

/-- After a minus, what begins with a digit is read as a number below zero. -/
theorem readPlain_minus {text : List Char} {d : Char} {tail : List Char} (h : text = d :: tail)
    (hd : d.isDigit = true) : readPlain ('-' :: text) = scanMagnitude true text := by
  subst h
  rw [readPlain, readWord_minus_digit hd, Option.none_or]
  rfl

/-- A number is read from the text of its magnitude, a minus before it. -/
theorem readPlain_signed (negative : Bool) {text : List Char} {d : Char} {tail : List Char}
    (h : text = d :: tail) (hd : d.isDigit = true) :
    readPlain ((if negative then ['-'] else []) ++ text) = scanMagnitude negative text := by
  cases negative
  · exact readPlain_digits h hd
  · exact readPlain_minus h hd

theorem int_toList (n : ℤ) : (toString n).toList =
    (if decide (n < 0) then ['-'] else []) ++ Nat.toDigits 10 n.natAbs := by
  cases n with
  | ofNat k => simp [toString, Int.repr]
  | negSucc k => simp [toString, Int.repr, Int.negSucc_lt_zero]

/-- **A whole number is read back.** -/
theorem readPlain_int (n : ℤ) (hr : Ends rest) :
    readPlain ((toString n).toList ++ rest) = some (.int n, rest) := by
  obtain ⟨d, tail, hdigits, hd⟩ :=
    head_of_allDigits (allDigits_toDigits n.natAbs) Nat.toDigits_ne_nil
  have hcons : Nat.toDigits 10 n.natAbs ++ rest = d :: (tail ++ rest) := by
    rw [hdigits, List.cons_append]
  rw [int_toList, List.append_assoc, readPlain_signed _ hcons hd,
    scanMagnitude_toDigits _ _ hr]
  simp only [decide_eq_true_eq, Option.some.injEq, Prod.mk.injEq, Value.int.injEq, and_true]
  split <;> omega

/-! ### Doubles -/

open Float.Model (UnpackedFloat)
open Float.Model.UnpackedFloat (Sign)

theorem head_writeDigits (hd : AllDigits ds) (hne : ds ≠ []) (leading : ℤ) :
    ∃ d tail, writeDigits ds leading = d :: tail ∧ d.isDigit = true := by
  obtain ⟨d, tail, rfl, hdigit⟩ := head_of_allDigits hd hne
  unfold writeDigits
  split
  · exact ⟨d, _, rfl, hdigit⟩
  · split
    · exact ⟨'0', _, rfl, rfl⟩
    · exact ⟨d, _, rfl, hdigit⟩

/-- Significant digits are digits, of which the first is not zero. -/
theorem significantDigits_row {n : ℕ} (hn : 0 < n) :
    AllDigits (significantDigits n) ∧ (significantDigits n).head? ≠ some '0' := by
  obtain ⟨hne, k, hsplit⟩ := significantDigits_spec hn
  have hall := allDigits_toDigits n
  have hhead := head_toDigits hn
  rw [hsplit] at hall hhead
  rw [List.head?_append_of_ne_nil _ hne] at hhead
  exact ⟨hall.subset (List.subset_append_left _ _), hhead⟩

/-- The digits of a decimal are written so that they are read with its value. -/
theorem readsDigits_decimal (negative : Bool) {d : Decimal} (hd : 0 < d.digits) (hr : Ends rest) :
    ∃ D E, scanMagnitude negative (d.write ++ rest) =
        some (.float (floatOfDecimal negative D E), rest) ∧
      (D : ℚ) * 10 ^ E = d.digits * 10 ^ d.exponent := by
  obtain ⟨hne, k, hsplit⟩ := significantDigits_spec hd
  obtain ⟨hall, hzero⟩ := significantDigits_row hd
  have hvalue : d.digits = 10 ^ k * natOfDigits (significantDigits d.digits) := by
    have h := natOfDigits_toDigits d.digits
    rw [hsplit, natOfDigits_append, natOfDigits_zeros, List.length_replicate, Nat.add_zero] at h
    exact h.symm
  have hcount : digitCount d.digits = (significantDigits d.digits).length + k := by
    rw [digitCount, hsplit, List.length_append, List.length_replicate]
  obtain ⟨D, E, hread, hDE⟩ :=
    scanMagnitude_writeDigits negative (d.exponent + digitCount d.digits - 1) hall hne hzero hr
  refine ⟨D, E, hread, hDE.trans ?_⟩
  have hexp : d.exponent + digitCount d.digits - 1 + 1 - (significantDigits d.digits).length =
      k + d.exponent := by
    rw [hcount]
    push_cast
    ring
  rw [hexp, zpow_add₀ (by norm_num), zpow_natCast]
  conv_rhs => rw [hvalue]
  push_cast
  ring

theorem write_finite {x : Float} {b : Binary} (h : Parts.ofFloat x = .finite b) :
    (spelling.write x).toList = (if b.negative then ['-'] else []) ++ b.shortest.write := by
  unfold Spelling.write
  rw [h]
  simp only
  split <;> simp

theorem sign_eq_signOf (s : Sign) : Double.signOf (s == .negative) = s := by cases s <;> rfl

theorem zero_write (negative : Bool) :
    (Binary.shortest ⟨negative, 0, -1074⟩).write = ['0'] ++ '.' :: ['0'] := by
  have hzero : Binary.shortest ⟨negative, 0, -1074⟩ = ⟨0, 0⟩ := rfl
  rw [hzero]
  decide +kernel

theorem readPlain_zero {x : Float} {s : Sign} (hparts : Parts.ofFloat x =
    .finite ⟨s == .negative, 0, -1074⟩) (hx : Double.ofUnpacked (.zero s) = x) (hr : Ends rest) :
    readPlain ((spelling.write x).toList ++ rest) = some (.float x, rest) := by
  rw [write_finite hparts, zero_write, List.append_assoc]
  refine (readPlain_signed (s == .negative) (d := '0') rfl rfl).trans ?_
  have hread := scanMagnitude_positional (s == .negative) (scanWhole_zero _)
    (allDigits_zeros 1) (by simp) hr
  refine hread.trans ?_
  have hzero : natOfDigits (['0'] ++ List.replicate 1 '0') = 0 := rfl
  rw [hzero, Double.floatOfDecimal_zero, sign_eq_signOf, hx]

/-- The shortest decimal is written with a digit at its start, and lies in the cell of the
double, as which it is therefore read. -/
theorem readPlain_finite {x : Float} {s : Sign} {m : ℕ} {e : ℤ} {hm : 0 < m}
    (hc : Double.Canonical m e) (hparts : Parts.ofFloat x = .finite ⟨s == .negative, m, e⟩)
    (hx : Double.ofUnpacked (.finite s m e hm) = x) (hr : Ends rest) :
    readPlain ((spelling.write x).toList ++ rest) = some (.float x, rest) := by
  have hholds := Double.shortest_holds (n := s == .negative) hc
  have hdigits := Double.digits_pos_of_holds hc hholds
  obtain ⟨D, E, hread, hvalue⟩ := readsDigits_decimal (s == .negative) hdigits hr
  rw [← hvalue] at hholds
  have hhead : ∃ d tail, (Binary.shortest ⟨s == .negative, m, e⟩).write ++ rest = d :: tail ∧
      d.isDigit = true := by
    obtain ⟨d, tail, hwrite, hd⟩ :=
      head_writeDigits (significantDigits_row hdigits).1 (significantDigits_spec hdigits).1 _
    exact ⟨d, tail ++ rest, by rw [Decimal.write, hwrite, List.cons_append], hd⟩
  obtain ⟨d, tail, hcons, hd⟩ := hhead
  rw [write_finite hparts, List.append_assoc, readPlain_signed _ hcons hd, hread,
    Double.floatOfDecimal_of_holds hc _ hholds, sign_eq_signOf, hx]

theorem write_nan {x : Float} (h : Double.unpacked x = .notANumber) : spelling.write x = "NaN" := by
  have hparts := Double.parts_eq x
  rw [h] at hparts
  unfold Spelling.write
  rw [hparts]
  rfl

theorem write_infinity {x : Float} {s : Sign} (h : Double.unpacked x = .infinity s) :
    spelling.write x = if s == .negative then "-Infinity" else "Infinity" := by
  have hparts := Double.parts_eq x
  rw [h] at hparts
  unfold Spelling.write
  rw [hparts]
  cases s <;> rfl

/-- **A double is read back**, the signed zeros and the values that are not finite included. -/
theorem readPlain_float (x : Float) (hr : Ends rest) :
    readPlain ((spelling.write x).toList ++ rest) = some (.float x, rest) := by
  have hx := Double.ofUnpacked_unpacked x
  have hparts := Double.parts_eq x
  cases hu : Double.unpacked x with
  | notANumber =>
    rw [write_nan hu]
    rw [hu] at hx
    obtain rfl : 0.0 / 0.0 = x := Eq.trans (by decide +kernel) hx
    rfl
  | infinity s =>
    rw [write_infinity hu]
    rw [hu] at hx
    cases s
    · obtain rfl : -(1.0 / 0.0) = x := Eq.trans (by decide +kernel) hx
      rfl
    · obtain rfl : 1.0 / 0.0 = x := Eq.trans (by decide +kernel) hx
      rfl
  | zero s =>
    rw [hu] at hx hparts
    exact readPlain_zero hparts hx hr
  | finite s m e hm =>
    have hc := Double.canonical_of_unpacked hu
    rw [hu] at hx hparts
    exact readPlain_finite hc hparts hx hr

/-! ### First characters -/

/-- The characters with which words and numbers begin. -/
def Opens (c : Char) : Prop := c.isDigit = true ∨ c ∈ ['n', 't', 'f', 'N', 'I', '-']

theorem opens_of_readPlain {c : Char} {s : List Char} {p : Value × List Char}
    (h : readPlain (c :: s) = some p) : Opens c := by
  by_contra hc
  obtain ⟨hdigit, hmem⟩ := not_or.mp hc
  have hdigit' : c.isDigit = false := Bool.eq_false_of_not_eq_true hdigit
  have hne : ∀ d ∈ ['n', 't', 'f', 'N', 'I', '-'], (d == c) = false := fun d hd => by
    rw [beq_eq_false_iff_ne]
    rintro rfl
    exact hmem hd
  have hword : readWord (c :: s) = none := by
    simp [readWord, words, afterWord?, hne 'n' (by simp), hne 't' (by simp), hne 'f' (by simp),
      hne 'N' (by simp), hne 'I' (by simp), hne '-' (by simp)]
  have hwhole : scanWhole (c :: s) = none := by
    unfold scanWhole
    split
    · next hzero =>
      obtain ⟨rfl, -⟩ := List.cons.inj hzero
      cases hdigit'
    · simp [hdigit']
  have hnumber : scanNumber (c :: s) = none := by
    unfold scanNumber
    split
    · next hminus =>
      obtain ⟨rfl, -⟩ := List.cons.inj hminus
      exact absurd (by simp) hmem
    · rw [scanMagnitude, hwhole]
      rfl
  rw [readPlain, hword, hnumber] at h
  cases h

/-- The text of what is read as a word or a number begins like one. -/
theorem head_of_readPlain {text : List Char} {p : Value × List Char}
    (h : readPlain text = some p) : ∃ c s, text = c :: s ∧ Opens c := by
  cases text with
  | nil => cases h
  | cons c s => exact ⟨c, s, rfl, opens_of_readPlain h⟩

end Json
end ShapeCodec
