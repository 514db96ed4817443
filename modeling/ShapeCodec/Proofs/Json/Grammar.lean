/-
# The grammar of JSON

What standard JSON text is: a value with blanks around it. A value is a word, a number, a text
between quotes, or a row of parts between brackets. The words for numbers that are not finite are
none of it, although the reader takes them and the writer writes them.

The rules are those of RFC 8259, and they say nothing of what a text stands for. What the reader
makes of the smallest parts, numbers and texts between quotes, is said here as well; the values
that are made of them are left to the modules that read and write rows.

Key definitions: `Json.IsNumber`, `Json.IsText`, `Json.Row`, `Json.Member`, `Json.IsValue`,
`Json.Standard`.
Key theorems: `Json.IsNumber.read`, `Json.IsText.read`.
-/
import ShapeCodec.Proofs.Json.Numbers
import ShapeCodec.Proofs.Json.Texts

namespace ShapeCodec
namespace Json

/-! ### Blanks -/

/-- A text of blanks and nothing else. -/
def AllBlank (s : List Char) : Prop := ∀ c ∈ s, isBlank c = true

theorem allBlank_nil : AllBlank [] := nofun

theorem skipBlanks_append {blanks : List Char} (h : AllBlank blanks) (s : List Char) :
    skipBlanks (blanks ++ s) = skipBlanks s := List.dropWhile_append_of_pos h

theorem skipBlanks_cons {c : Char} (h : isBlank c = false) (s : List Char) :
    skipBlanks (c :: s) = c :: s := by
  rw [skipBlanks, List.dropWhile_cons_of_neg (by simp [h])]

theorem ends_of_blank {c : Char} (h : isBlank c = true) :
    c.isDigit = false ∧ c ≠ '.' ∧ c ≠ 'e' ∧ c ≠ 'E' := by
  have hc : c = ' ' ∨ c = '\t' ∨ c = '\n' ∨ c = '\r' := by
    simpa [isBlank, or_assoc] using h
  rcases hc with rfl | rfl | rfl | rfl <;> decide

/-- Blanks and then what does not carry on a number do not carry one on. -/
theorem ends_append {blanks s : List Char} (h : AllBlank blanks) (hs : Ends s) :
    Ends (blanks ++ s) := by
  cases blanks with
  | nil => exact hs
  | cons c blanks => exact ends_cons (ends_of_blank (h c (by simp)))

/-! ### Numbers -/

/-- The digits before the point: a zero alone, or digits of which the first is not zero. -/
structure IsWhole (ds : List Char) : Prop where
  digits : AllDigits ds
  nonempty : ds ≠ []
  leading : ds.head? = some '0' → ds = ['0']

/-- A point and digits, or nothing. -/
inductive IsFraction : List Char → Prop where
  | absent : IsFraction []
  | present {ds : List Char} (hd : AllDigits ds) (hne : ds ≠ []) : IsFraction ('.' :: ds)

/-- An exponent with a sign or without one, or nothing. -/
inductive IsExponent : List Char → Prop where
  | absent : IsExponent []
  | present {mark : Char} {sign ds : List Char} (hmark : mark ∈ ['e', 'E'])
      (hsign : sign ∈ [[], ['-'], ['+']]) (hd : AllDigits ds) (hne : ds ≠ []) :
      IsExponent (mark :: (sign ++ ds))

/-- A number, a minus before it or not. -/
inductive IsNumber : List Char → Prop where
  | intro (negative : Bool) {whole fraction exponent : List Char} (hwhole : IsWhole whole)
      (hfraction : IsFraction fraction) (hexponent : IsExponent exponent) :
      IsNumber ((if negative then ['-'] else []) ++ (whole ++ (fraction ++ exponent)))

/-! ### Texts -/

/-- A hexadecimal digit, in either case. -/
def IsHexDigit (c : Char) : Prop :=
  ('0' ≤ c ∧ c ≤ '9') ∨ ('a' ≤ c ∧ c ≤ 'f') ∨ ('A' ≤ c ∧ c ≤ 'F')

/-- A character between quotes, as it is or escaped. -/
inductive IsChar : List Char → Prop where
  | bare {c : Char} (hquote : c ≠ '\x22') (hslash : c ≠ '\\') (hlow : 0x20 ≤ c.toNat) : IsChar [c]
  | short {c : Char} (h : c ∈ ['\x22', '\\', '/', 'b', 'f', 'n', 'r', 't']) : IsChar ['\\', c]
  | unit {a b c d : Char} (ha : IsHexDigit a) (hb : IsHexDigit b) (hc : IsHexDigit c)
      (hd : IsHexDigit d) : IsChar ['\\', 'u', a, b, c, d]

/-- Characters between quotes. -/
inductive IsChars : List Char → Prop where
  | nil : IsChars []
  | cons {c cs : List Char} (hc : IsChar c) (hcs : IsChars cs) : IsChars (c ++ cs)

/-- A text between quotes. -/
inductive IsText : List Char → Prop where
  | intro {cs : List Char} (h : IsChars cs) : IsText ('\x22' :: (cs ++ ['\x22']))

/-! ### Values -/

/-- Texts with commas between them, and with blanks around each. -/
inductive Row : List (List Char) → List Char → Prop where
  | last {before t after : List Char} (hbefore : AllBlank before) (hafter : AllBlank after) :
      Row [t] (before ++ (t ++ after))
  | next {before t after row : List Char} {ts : List (List Char)} (hbefore : AllBlank before)
      (hafter : AllBlank after) (hrow : Row ts row) :
      Row (t :: ts) (before ++ (t ++ (after ++ ',' :: row)))

/-- A name and a value, with a colon between them and blanks around it. -/
structure Member where
  name : List Char
  before : List Char
  after : List Char
  value : List Char

/-- The text of a member. -/
def Member.text (m : Member) : List Char := m.name ++ (m.before ++ ':' :: (m.after ++ m.value))

/-- The text of a member is in order up to the value. -/
structure Member.Named (m : Member) : Prop where
  name : IsText m.name
  before : AllBlank m.before
  after : AllBlank m.after

/-- A value. -/
inductive IsValue : List Char → Prop where
  | word {t : String} (h : t ∈ ["null", "true", "false"]) : IsValue t.toList
  | number {t : List Char} (h : IsNumber t) : IsValue t
  | text {t : List Char} (h : IsText t) : IsValue t
  | emptyList {blanks : List Char} (h : AllBlank blanks) : IsValue ('[' :: (blanks ++ [']']))
  | list {ts : List (List Char)} {row : List Char} (hrow : Row ts row)
      (hts : ∀ t ∈ ts, IsValue t) : IsValue ('[' :: (row ++ [']']))
  | emptyDocument {blanks : List Char} (h : AllBlank blanks) :
      IsValue ('\x7b' :: (blanks ++ ['\x7d']))
  | document {ms : List Member} {row : List Char} (hrow : Row (ms.map Member.text) row)
      (hnames : ∀ m ∈ ms, m.Named) (hvalues : ∀ m ∈ ms, IsValue m.value) :
      IsValue ('\x7b' :: (row ++ ['\x7d']))

/-- Standard JSON text: a value with blanks around it. -/
inductive Standard (text : String) : Prop where
  | intro {before t after : List Char} (hbefore : AllBlank before) (ht : IsValue t)
      (hafter : AllBlank after) (htext : text.toList = before ++ (t ++ after))

/-! ### Texts read -/

/-- Text between quotes that is read as a text, whatever comes after it. -/
def TextReads (t : List Char) (s : String) : Prop :=
  ∀ rest, ∃ body, t ++ rest = '\x22' :: body ∧ readText body = some (s, rest)

theorem IsHexDigit.read {c : Char} (h : IsHexDigit c) : ∃ k, hexDigit? c = some k := by
  unfold hexDigit?
  split
  · exact ⟨_, rfl⟩
  · next hdecimal =>
    split
    · exact ⟨_, rfl⟩
    · next hlower => exact ⟨_, if_pos ((h.resolve_left hdecimal).resolve_left hlower)⟩

/-- A character between quotes is read as one code. -/
theorem IsChar.read {t : List Char} (h : IsChar t) :
    ∃ code, ∀ rest, scanText (t ++ rest) = (scanText rest).map fun p => (code :: p.1, p.2) := by
  cases h with
  | bare hquote hslash hlow => exact ⟨_, fun rest => scanText_bare hquote hslash hlow⟩
  | @short c hc =>
    have hshort : c ≠ 'u' ∧ ∃ code, shortEscape? c = some code := by
      simp only [List.mem_cons, List.not_mem_nil, or_false] at hc
      rcases hc with rfl | rfl | rfl | rfl | rfl | rfl | rfl | rfl <;>
        exact ⟨by decide, _, rfl⟩
    obtain ⟨hu, code, hcode⟩ := hshort
    exact ⟨code, fun rest => scanText_short hu hcode⟩
  | @unit a b c d ha hb hc hd =>
    obtain ⟨i, hi⟩ := ha.read
    obtain ⟨j, hj⟩ := hb.read
    obtain ⟨k, hk⟩ := hc.read
    obtain ⟨l, hl⟩ := hd.read
    have hunit : hexUnit? a b c d = some (((i * 16 + j) * 16 + k) * 16 + l) := by
      rw [hexUnit?, hi, hj, hk, hl]
      rfl
    refine ⟨((i * 16 + j) * 16 + k) * 16 + l, fun rest => ?_⟩
    simp only [List.cons_append, List.nil_append]
    rw [scanText, hunit]
    cases scanText rest <;> rfl

theorem IsChars.read {cs : List Char} (h : IsChars cs) :
    ∃ codes, ∀ rest, scanText (cs ++ '\x22' :: rest) = some (codes, rest) := by
  induction h with
  | nil => exact ⟨[], fun rest => rfl⟩
  | cons hc _ ih =>
    obtain ⟨code, hcode⟩ := hc.read
    obtain ⟨codes, hcodes⟩ := ih
    refine ⟨code :: codes, fun rest => ?_⟩
    rw [List.append_assoc, hcode, hcodes]
    rfl

/-- **A text between quotes is read**, whatever its escapes stand for. -/
theorem IsText.read {t : List Char} (h : IsText t) : ∃ s, TextReads t s := by
  obtain ⟨hcs⟩ := h
  obtain ⟨codes, hcodes⟩ := hcs.read
  refine ⟨String.ofList (charsOfCodes codes), fun rest => ⟨_, List.cons_append, ?_⟩⟩
  rw [List.append_assoc, readText, List.singleton_append, hcodes]
  rfl

/-! ### Numbers read -/

variable {rest : List Char}

/-- A text that carries on neither a row of digits nor a fraction. -/
def EndsFraction (rest : List Char) : Prop :=
  ∀ c, rest.head? = some c → c.isDigit = false ∧ c ≠ '.'

theorem EndsFraction.noDigit (h : EndsFraction rest) : NoDigit rest := fun c hc => (h c hc).1

theorem IsWhole.read {whole : List Char} (h : IsWhole whole) (hr : NoDigit rest) :
    scanWhole (whole ++ rest) = some (whole, rest) := by
  by_cases hzero : whole.head? = some '0'
  · rw [h.leading hzero]
    rfl
  · exact scanWhole_digits rest h.digits h.nonempty hzero hr

/-- A fraction is read as its digits, if it has any. -/
theorem IsFraction.read {fraction : List Char} (h : IsFraction fraction) :
    ∃ digits : Option (List Char), ∀ rest, EndsFraction rest →
      NoDigit (fraction ++ rest) ∧ scanFraction (fraction ++ rest) = (digits, rest) := by
  cases h with
  | absent =>
    refine ⟨none, fun rest hr => ⟨hr.noDigit, scanFraction_none fun hpoint => ?_⟩⟩
    exact (hr '.' hpoint).2 rfl
  | @present ds hd hne =>
    exact ⟨some ds, fun rest hr => ⟨noDigit_cons rfl, scanFraction_digits hd hne hr.noDigit⟩⟩

theorem scanExponent_signed {mark : Char} {sign ds : List Char} (hmark : mark ∈ ['e', 'E'])
    (hsign : sign ∈ [[], ['-'], ['+']]) (hd : AllDigits ds) (hne : ds ≠ []) :
    ∃ e : ℤ, ∀ rest, NoDigit rest →
      scanExponent (mark :: (sign ++ ds) ++ rest) = some (e, rest) := by
  have hstart : (mark == 'e' || mark == 'E') = true := by simpa using hmark
  simp only [List.mem_cons, List.not_mem_nil, or_false] at hsign
  rcases hsign with rfl | rfl | rfl
  · obtain ⟨d, tail, rfl, hdigit⟩ := head_of_allDigits hd hne
    refine ⟨natOfDigits (d :: tail), fun rest hr => ?_⟩
    rw [List.nil_append, List.cons_append, scanExponent, if_pos hstart]
    · exact scanExponentDigits_digits false hd hne hr
    · rintro digits ⟨⟩
      cases hdigit
    · rintro digits ⟨⟩
      cases hdigit
  · refine ⟨-natOfDigits ds, fun rest hr => ?_⟩
    simp only [List.cons_append, List.nil_append, scanExponent, hstart, if_true]
    exact scanExponentDigits_digits true hd hne hr
  · refine ⟨natOfDigits ds, fun rest hr => ?_⟩
    simp only [List.cons_append, List.nil_append, scanExponent, hstart, if_true]
    exact scanExponentDigits_digits false hd hne hr

theorem IsExponent.endsFraction {exponent : List Char} (h : IsExponent exponent) (hr : Ends rest) :
    EndsFraction (exponent ++ rest) := by
  cases h with
  | absent => exact fun c hc => ⟨(hr c hc).1, (hr c hc).2.1⟩
  | @present mark sign ds hmark =>
    rintro c ⟨⟩
    simp only [List.mem_cons, List.not_mem_nil, or_false] at hmark
    rcases hmark with rfl | rfl <;> decide

/-- A number as it is read: whole, or a decimal rounded to a double. -/
inductive IsReading : Value → Prop where
  | int (n : ℤ) : IsReading (.int n)
  | float (negative : Bool) (digits : ℕ) (exponent : ℤ) :
      IsReading (.float (floatOfDecimal negative digits exponent))

theorem scanMagnitude_number (negative : Bool) {whole fraction exponent : List Char}
    (hwhole : IsWhole whole) (hfraction : IsFraction fraction) (hexponent : IsExponent exponent) :
    ∃ v, IsReading v ∧ ∀ rest, Ends rest →
      scanMagnitude negative (whole ++ (fraction ++ (exponent ++ rest))) = some (v, rest) := by
  obtain ⟨digits, hdigits⟩ := hfraction.read
  have hscan : ∀ rest, Ends rest →
      scanWhole (whole ++ (fraction ++ (exponent ++ rest))) =
          some (whole, fraction ++ (exponent ++ rest)) ∧
        scanFraction (fraction ++ (exponent ++ rest)) = (digits, exponent ++ rest) := by
    intro rest hr
    obtain ⟨hno, hpoint⟩ := hdigits _ (hexponent.endsFraction hr)
    exact ⟨hwhole.read hno, hpoint⟩
  cases hexponent with
  | absent =>
    have hnone : ∀ rest, Ends rest → scanExponent rest = none := fun rest hr =>
      scanExponent_none fun c hc => (hr c hc).2.2
    cases digits with
    | none =>
      refine ⟨_, .int (if negative then -Int.ofNat (natOfDigits (whole ++ []))
        else Int.ofNat (natOfDigits (whole ++ []))), fun rest hr => ?_⟩
      rw [scanMagnitude, (hscan rest hr).1]
      simp only [Option.bind_eq_bind, Option.bind_some, (hscan rest hr).2]
      simp only [List.nil_append, hnone rest hr]
      rfl
    | some ds =>
      refine ⟨_, .float negative (natOfDigits (whole ++ ds)) (-ds.length), fun rest hr => ?_⟩
      rw [scanMagnitude, (hscan rest hr).1]
      simp only [Option.bind_eq_bind, Option.bind_some, (hscan rest hr).2]
      simp only [List.nil_append, hnone rest hr]
      rfl
  | present hmark hsign hd hne =>
    obtain ⟨e, he⟩ := scanExponent_signed hmark hsign hd hne
    refine ⟨_, .float negative (natOfDigits (whole ++ digits.getD []))
      (e - (digits.getD []).length), fun rest hr => ?_⟩
    rw [scanMagnitude, (hscan rest hr).1]
    simp only [Option.bind_eq_bind, Option.bind_some, (hscan rest hr).2, he rest hr.noDigit]
    rfl

/-- **A number is read** in front of what does not carry it on. -/
theorem IsNumber.read {t : List Char} (h : IsNumber t) :
    ∃ v, IsReading v ∧ ∀ rest, Ends rest → readPlain (t ++ rest) = some (v, rest) := by
  cases h with
  | @intro negative whole fraction exponent hwhole hfraction hexponent =>
    obtain ⟨v, hv, hread⟩ := scanMagnitude_number negative hwhole hfraction hexponent
    obtain ⟨d, tail, rfl, hd⟩ := head_of_allDigits hwhole.digits hwhole.nonempty
    refine ⟨v, hv, fun rest hr => ?_⟩
    rw [List.append_assoc, List.append_assoc, List.append_assoc]
    exact (readPlain_signed negative List.cons_append hd).trans (hread rest hr)

end Json
end ShapeCodec
