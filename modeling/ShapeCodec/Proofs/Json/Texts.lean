/-
# Texts read back

A text between quotes is read back from the escapes in which it was written. Every character
goes through its UTF-16 codes: one code, or two for a character above U+FFFF, which are put
together again because no character has a code that is half of another.

Key definitions: `Json.unitsOf`, `Json.Escaped`.
Key theorems: `Json.escapedChar_escaped`, `Json.Escaped.scan`, `Json.charsOfCodes_unitsOf`,
`Json.readText_quotedText`.
-/
import Mathlib
import ShapeCodec.Json.Printer
import ShapeCodec.Json.Reader

namespace ShapeCodec
namespace Json

/-! ### Hexadecimal codes -/

theorem hexDigit?_digitChar : ∀ k < 16, hexDigit? (Nat.digitChar k) = some k := by decide

/-- A code of four digits, the highest first. -/
theorem hexOf_four {n : ℕ} (h : n < 0x10000) : hexOf 4 n =
    [Nat.digitChar (n / 16 / 16 / 16), Nat.digitChar (n / 16 / 16 % 16),
      Nat.digitChar (n / 16 % 16), Nat.digitChar (n % 16)] := by
  have hstep : ∀ k, 16 ≤ k → Nat.toDigits 16 k = Nat.toDigits 16 (k / 16) ++ [Nat.digitChar (k % 16)] :=
    fun k => Nat.toDigits_of_base_le (by norm_num)
  have hlast : ∀ k, k < 16 → Nat.toDigits 16 k = [Nat.digitChar k] := fun k =>
    Nat.toDigits_of_lt_base
  unfold hexOf
  rcases Nat.lt_or_ge n 16 with h1 | h1
  · rw [hlast n h1, show n / 16 = 0 by omega, Nat.mod_eq_of_lt h1]
    rfl
  rw [hstep n h1]
  rcases Nat.lt_or_ge (n / 16) 16 with h2 | h2
  · rw [hlast _ h2, show n / 16 / 16 = 0 by omega, Nat.mod_eq_of_lt h2]
    rfl
  rw [hstep _ h2]
  rcases Nat.lt_or_ge (n / 16 / 16) 16 with h3 | h3
  · rw [hlast _ h3, show n / 16 / 16 / 16 = 0 by omega, Nat.mod_eq_of_lt h3]
    rfl
  rw [hstep _ h3, hlast (n / 16 / 16 / 16) (by omega)]
  rfl

variable {rest : List Char}

/-- A code in hexadecimal is read back. -/
theorem scanText_unitEscape {code : ℕ} (h : code < 0x10000) :
    scanText (unitEscape code ++ rest) =
      (scanText rest).map fun p => (code :: p.1, p.2) := by
  have hunit : hexUnit? (Nat.digitChar (code / 16 / 16 / 16)) (Nat.digitChar (code / 16 / 16 % 16))
      (Nat.digitChar (code / 16 % 16)) (Nat.digitChar (code % 16)) = some code := by
    unfold hexUnit?
    rw [hexDigit?_digitChar _ (by omega), hexDigit?_digitChar _ (by omega),
      hexDigit?_digitChar _ (by omega), hexDigit?_digitChar _ (by omega)]
    simp only [Option.bind_eq_bind, Option.bind_some, Option.pure_def, Option.some.injEq]
    omega
  rw [unitEscape, hexOf_four h]
  simp only [List.cons_append, List.nil_append]
  rw [scanText, hunit]
  cases scanText rest <;> rfl

/-! ### Characters -/

/-- The UTF-16 codes of a character. -/
def unitsOf (c : Char) : List ℕ :=
  if c.toNat < 0x10000 then [c.toNat]
  else [0xd800 + (c.toNat - 0x10000) / 0x400, 0xdc00 + (c.toNat - 0x10000) % 0x400]

theorem toNat_range (c : Char) : c.toNat < 0xd800 ∨ 0xdfff < c.toNat ∧ c.toNat < 0x110000 := c.valid

/-- A backslash and a letter stand for one code. -/
theorem scanText_short {l : Char} {code : ℕ} (hu : l ≠ 'u') (h : shortEscape? l = some code) :
    scanText ('\\' :: l :: rest) = (scanText rest).map fun p => (code :: p.1, p.2) := by
  rw [scanText, h]
  · cases scanText rest <;> rfl
  · rintro a b c d tail hl
    exact absurd hl hu

/-- A character that needs no escape is read as its code. -/
theorem scanText_bare {c : Char} (hquote : c ≠ '\x22') (hslash : c ≠ '\\') (hlow : 0x20 ≤ c.toNat) :
    scanText (c :: rest) = (scanText rest).map fun p => (c.toNat :: p.1, p.2) := by
  have hguard : (c == '\\' || decide (c.toNat < 0x20)) = false := by
    simp [hslash, Nat.not_lt.mpr hlow]
  rw [scanText]
  · rw [if_neg (by simp [hguard])]
    cases scanText rest <;> rfl
  · exact hquote
  · rintro a b d e tail rfl
    exact absurd rfl hslash
  · rintro d tail rfl
    exact absurd rfl hslash

/-- The ways in which a character is written between quotes. -/
inductive Escaped (c : Char) : List Char → Prop where
  | short {l : Char} (hl : l ∈ ['\x22', '\\', 'b', 'f', 'n', 'r', 't'])
      (hcode : shortEscape? l = some c.toNat) (hone : c.toNat < 0x10000) : Escaped c ['\\', l]
  | bare (hquote : c ≠ '\x22') (hslash : c ≠ '\\') (hlow : 0x20 ≤ c.toNat)
      (hone : c.toNat < 0x10000) : Escaped c [c]
  | unit (hone : c.toNat < 0x10000) : Escaped c (unitEscape c.toNat)
  | pair (htwo : ¬ c.toNat < 0x10000) :
      Escaped c (unitEscape (0xd800 + (c.toNat - 0x10000) / 0x400) ++
        unitEscape (0xdc00 + (c.toNat - 0x10000) % 0x400))

theorem escapedChar_escaped (c : Char) : Escaped c (escapedChar c) := by
  by_cases hnamed : c ∈ ['\x22', '\\', '\n', '\r', '\t', '\x08', '\x0c']
  · simp only [List.mem_cons, List.not_mem_nil, or_false] at hnamed
    rcases hnamed with rfl | rfl | rfl | rfl | rfl | rfl | rfl <;>
      exact .short (by decide) rfl (by decide)
  · simp only [List.mem_cons, List.not_mem_nil, or_false, not_or] at hnamed
    obtain ⟨hquote, hslash, hn, hr, ht, hb, hf⟩ := hnamed
    unfold escapedChar
    simp only [beq_iff_eq, Bool.or_eq_true, hquote, hslash, hn, hr, ht, hb, hf, or_self, if_false]
    split
    · next h =>
      obtain ⟨hlow, hhigh⟩ : 0x20 ≤ c.toNat ∧ c.toNat < 0x7f := by simpa using h
      exact .bare hquote hslash hlow (by omega)
    split
    · next hone => exact .unit hone
    · next htwo => exact .pair htwo

/-- A character is read as its codes, however it is written. -/
theorem Escaped.scan {c : Char} {t : List Char} (h : Escaped c t) :
    scanText (t ++ rest) = (scanText rest).map fun p => (unitsOf c ++ p.1, p.2) := by
  cases h with
  | short hl hcode hone =>
    rw [unitsOf, if_pos hone]
    exact scanText_short (by rintro rfl; simp at hl) hcode
  | bare hquote hslash hlow hone =>
    rw [unitsOf, if_pos hone]
    exact scanText_bare hquote hslash hlow
  | unit hone =>
    rw [unitsOf, if_pos hone]
    exact scanText_unitEscape hone
  | pair htwo =>
    have hrange := toNat_range c
    rw [unitsOf, if_neg htwo, List.append_assoc, scanText_unitEscape (by omega),
      scanText_unitEscape (by omega)]
    cases scanText rest <;> rfl

theorem scanText_escapedChar (c : Char) :
    scanText (escapedChar c ++ rest) = (scanText rest).map fun p => (unitsOf c ++ p.1, p.2) :=
  (escapedChar_escaped c).scan

/-- The characters of a text are read as their codes, up to the closing quote. -/
theorem scanText_chars : ∀ cs : List Char,
    scanText (cs.flatMap escapedChar ++ '\x22' :: rest) = some (cs.flatMap unitsOf, rest)
  | [] => by simp [scanText]
  | c :: cs => by
    rw [List.flatMap_cons, List.append_assoc, scanText_escapedChar, scanText_chars cs,
      List.flatMap_cons]
    rfl

/-! ### Codes -/

theorem charOfCode_toNat (c : Char) : charOfCode c.toNat = c := by
  have hrange := toNat_range c
  have hlead : isLeading c.toNat = false := by simp [isLeading]; omega
  have htrail : isTrailing c.toNat = false := by simp [isTrailing]; omega
  rw [charOfCode, hlead, htrail]
  exact Char.ofNat_toNat c

/-- A character with one code is put back by itself. -/
theorem charsOfCodes_one (c : Char) (codes : List ℕ) :
    charsOfCodes (c.toNat :: codes) = c :: charsOfCodes codes := by
  have hrange := toNat_range c
  have hlead : isLeading c.toNat = false := by simp [isLeading]; omega
  cases codes with
  | nil =>
    show [charOfCode c.toNat] = [c]
    rw [charOfCode_toNat]
  | cons second codes =>
    rw [charsOfCodes, hlead, Bool.false_and, if_neg Bool.false_ne_true, charOfCode_toNat]

/-- A character with two codes is put together from them. -/
theorem charsOfCodes_two {c : Char} (h : 0x10000 ≤ c.toNat) (codes : List ℕ) :
    charsOfCodes ((0xd800 + (c.toNat - 0x10000) / 0x400) ::
      (0xdc00 + (c.toNat - 0x10000) % 0x400) :: codes) = c :: charsOfCodes codes := by
  have hrange := toNat_range c
  have hlead : isLeading (0xd800 + (c.toNat - 0x10000) / 0x400) = true := by
    simp [isLeading]
    omega
  have htrail : isTrailing (0xdc00 + (c.toNat - 0x10000) % 0x400) = true := by
    simp [isTrailing]
    omega
  have hcode : 0x10000 + (0xd800 + (c.toNat - 0x10000) / 0x400 - 0xd800) * 0x400 +
      (0xdc00 + (c.toNat - 0x10000) % 0x400 - 0xdc00) = c.toNat := by omega
  rw [charsOfCodes, hlead, htrail, Bool.and_self, if_pos rfl, hcode, Char.ofNat_toNat]

/-- The codes of characters are put together to the same characters. -/
theorem charsOfCodes_unitsOf : ∀ cs : List Char, charsOfCodes (cs.flatMap unitsOf) = cs
  | [] => rfl
  | c :: cs => by
    rw [List.flatMap_cons]
    by_cases h : c.toNat < 0x10000
    · rw [unitsOf, if_pos h, List.singleton_append, charsOfCodes_one, charsOfCodes_unitsOf cs]
    · rw [unitsOf, if_neg h, List.cons_append, List.singleton_append,
        charsOfCodes_two (Nat.not_lt.mp h), charsOfCodes_unitsOf cs]

/-- **A text is read back** from between its quotes. -/
theorem readText_quotedText (text : String) (rest : List Char) :
    ∃ body, (quotedText text).toList ++ rest = '\x22' :: body ∧
      readText body = some (text, rest) := by
  refine ⟨text.toList.flatMap escapedChar ++ '\x22' :: rest, ?_, ?_⟩
  · rw [quotedText, String.toList_ofList, List.cons_append, List.append_assoc]
    rfl
  · rw [readText, scanText_chars, Option.map_some]
    simp only [charsOfCodes_unitsOf, String.ofList_toList]

end Json
end ShapeCodec
