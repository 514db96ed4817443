/-
# Standard JSON

What the reader makes of standard JSON text, and when the writer writes it. The reader takes all of
it, and no double that it reads is less than a number, although one may be infinite: a literal past
every double is rounded to an infinity. What is written of a plain value is standard exactly if
every double in the value is finite.

That no other text is standard is seen from the characters outside of quotes. Standard text has
none there with which a word for a number that is not finite begins, while what is written of such
a number is one of these words.

Key definitions: `Json.unquoted`, `Json.FreeIff`, `Json.Spelled`.
Key theorems: `Json.IsValue.reads`, `Json.parse?_standard`, `Json.spelled_render`,
`Json.standard_render_iff`.
-/
import ShapeCodec.Proofs.Double.Finite
import ShapeCodec.Proofs.Json.RoundTrip
import ShapeCodec.Proofs.Value.Numbers

namespace ShapeCodec
namespace Json

/-! ### Reading -/

theorem IsReading.noNaN {v : Value} (h : IsReading v) : v.NoNaN := by
  cases h with
  | int => exact Value.allNumbers_int _
  | float => exact Value.allNumbers_float.mpr (Double.floatOfDecimal_isNaN _ _ _)

/-- **Every standard value is read**, and every double in it is a number. -/
theorem IsValue.reads {t : List Char} (h : IsValue t) : ∃ v : Value, v.NoNaN ∧ ReadsBack t v := by
  induction h with
  | word ht =>
    simp only [List.mem_cons, List.not_mem_nil, or_false] at ht
    rcases ht with rfl | rfl | rfl
    · exact ⟨.null, Value.allNumbers_null, readsBack_of_readPlain fun rest _ => rfl⟩
    · exact ⟨.bool true, Value.allNumbers_bool _, readsBack_of_readPlain fun rest _ => rfl⟩
    · exact ⟨.bool false, Value.allNumbers_bool _, readsBack_of_readPlain fun rest _ => rfl⟩
  | number ht =>
    obtain ⟨v, hv, hread⟩ := ht.read
    exact ⟨v, hv.noNaN, readsBack_of_readPlain hread⟩
  | text ht =>
    obtain ⟨s, hs⟩ := ht.read
    exact ⟨.text s, Value.allNumbers_text s, hs.readsBack⟩
  | emptyList hblanks =>
    exact ⟨.list [], Value.allNumbers_list.mpr nofun, readsBack_emptyList hblanks⟩
  | list hrow _ ih =>
    obtain ⟨items, hitems⟩ := exists_forall₂ ih
    exact ⟨.list items, Value.allNumbers_list.mpr (forall₂_right hitems (fun _ _ => trivial) fun _ _ h _ => h.1),
      readsBack_list hrow (hitems.imp fun _ _ h => h.2)⟩
  | emptyDocument hblanks =>
    exact ⟨.document [], Value.allNumbers_document.mpr nofun, readsBack_emptyDocument hblanks⟩
  | @document ms row hrow hnames _ ih =>
    have hmembers : ∀ m ∈ ms, ∃ field : String × Value,
        field.2.NoNaN ∧ FieldReadsBack m.text field := by
      intro m hm
      obtain ⟨name, hname⟩ := (hnames m hm).name.read
      obtain ⟨v, hv, hread⟩ := ih m hm
      exact ⟨(name, v), hv, m, rfl, hname, (hnames m hm).before, (hnames m hm).after, hread⟩
    obtain ⟨fields, hfields⟩ := exists_forall₂ hmembers
    exact ⟨documentOf fields, Value.allNumbers_documentOf (forall₂_right hfields (fun _ _ => trivial) fun _ _ h _ => h.1),
      readsBack_document hrow
        (List.forall₂_map_left_iff.mpr (hfields.imp fun _ _ h => h.2))⟩

/-- **Standard text is parsed**, and every double in what it stands for is a number. -/
theorem parse?_standard {text : String} (h : Standard text) :
    ∃ v : Value, v.NoNaN ∧ parse? text = some v := by
  obtain ⟨hbefore, ht, hafter, htext⟩ := h
  obtain ⟨v, hv, hread⟩ := ht.reads
  exact ⟨v, hv, hread.parse? hbefore hafter htext⟩

/-! ### Outside of quotes -/

/-- The characters of a text that stand outside of quotes. The text begins inside of quotes or
outside of them. -/
def unquoted (inside : Bool) (s : List Char) : List Char :=
  match inside, s with
  | _, [] => []
  | false, c :: rest => if c = '\x22' then unquoted true rest else c :: unquoted false rest
  | true, '\\' :: _ :: rest => unquoted true rest
  | true, c :: rest => unquoted (c ≠ '\x22') rest

/-- The characters outside of quotes that a text adds to those of the text after it. -/
def Leaves (t bare : List Char) : Prop :=
  ∀ rest, unquoted false (t ++ rest) = bare ++ unquoted false rest

/-- Characters with which no word for a number that is not finite begins. -/
def NoWord (bare : List Char) : Prop := 'N' ∉ bare ∧ 'I' ∉ bare

/-- Outside of quotes, a text is without words for numbers that are not finite exactly if. -/
def FreeIff (t : List Char) (p : Prop) : Prop := ∃ bare, Leaves t bare ∧ (NoWord bare ↔ p)

variable {t u : List Char} {p q : Prop}

theorem FreeIff.append (ht : FreeIff t p) (hu : FreeIff u q) : FreeIff (t ++ u) (p ∧ q) := by
  obtain ⟨b, hb, hp⟩ := ht
  obtain ⟨c, hc, hq⟩ := hu
  refine ⟨b ++ c, fun rest => ?_, ?_⟩
  · rw [List.append_assoc, hb, hc, List.append_assoc]
  · rw [← hp, ← hq]
    simp only [NoWord, List.mem_append]
    tauto

theorem FreeIff.congr (h : FreeIff t p) (hpq : p ↔ q) : FreeIff t q := by
  obtain ⟨bare, hleaves, hp⟩ := h
  exact ⟨bare, hleaves, hp.trans hpq⟩

/-- A text has words for numbers that are not finite or it has none. -/
theorem FreeIff.unique (hp : FreeIff t p) (hq : FreeIff t q) : p ↔ q := by
  obtain ⟨b, hb, hp⟩ := hp
  obtain ⟨c, hc, hq⟩ := hq
  have hsame : b = c := by simpa [unquoted] using (hb []).symm.trans (hc [])
  rw [← hp, ← hq, hsame]

/-- Characters that are no quotes are all outside. -/
theorem leaves_self (h : '\x22' ∉ t) : Leaves t t := by
  intro rest
  induction t with
  | nil => rfl
  | cons c t ih =>
    rw [List.mem_cons, not_or] at h
    rw [List.cons_append, unquoted, if_neg (Ne.symm h.1), ih h.2]
    rfl

theorem freeIff_bare (h : '\x22' ∉ t) : FreeIff t (NoWord t) := ⟨t, leaves_self h, Iff.rfl⟩

/-- A character that is no quote and begins no word for a number that is not finite. -/
def Harmless (c : Char) : Prop := c ≠ '\x22' ∧ c ≠ 'N' ∧ c ≠ 'I'

instance : DecidablePred Harmless := fun c =>
  inferInstanceAs (Decidable (c ≠ '\x22' ∧ c ≠ 'N' ∧ c ≠ 'I'))

theorem freeIff_of_chars (h : ∀ c ∈ t, Harmless c) : FreeIff t True :=
  (freeIff_bare fun hmem => (h _ hmem).1 rfl).congr
    (iff_of_true ⟨fun hmem => (h _ hmem).2.1 rfl, fun hmem => (h _ hmem).2.2 rfl⟩ trivial)

theorem freeIff_blanks (h : AllBlank t) : FreeIff t True := by
  refine freeIff_of_chars fun c hc => ?_
  have hblank := h c hc
  refine ⟨?_, ?_, ?_⟩ <;> (rintro rfl; cases hblank)

/-- A part in front of or behind what has no such words does not change whether it has some. -/
theorem FreeIff.left (ht : FreeIff t True) (hu : FreeIff u q) : FreeIff (t ++ u) q :=
  (ht.append hu).congr (by rw [true_and])

theorem FreeIff.right (ht : FreeIff t p) (hu : FreeIff u True) : FreeIff (t ++ u) p :=
  (ht.append hu).congr (by rw [and_true])

theorem FreeIff.mark {c : Char} (hc : Harmless c) (h : FreeIff t p) : FreeIff (c :: t) p :=
  (freeIff_of_chars (List.forall_mem_singleton.mpr hc)).left h

theorem FreeIff.between {opening closing : Char} (ho : Harmless opening) (hc : Harmless closing)
    (h : FreeIff t p) : FreeIff (opening :: (t ++ [closing])) p :=
  .mark ho (h.right (freeIff_of_chars (List.forall_mem_singleton.mpr hc)))

/-! ### The grammar outside of quotes -/

theorem unquoted_inside {c : Char} (hquote : c ≠ '\x22') (hslash : c ≠ '\\') (rest : List Char) :
    unquoted true (c :: rest) = unquoted true rest := by
  rw [unquoted]
  · simp [hquote]
  · rintro d tail rfl
    exact absurd rfl hslash

theorem IsHexDigit.inside {c : Char} (h : IsHexDigit c) (rest : List Char) :
    unquoted true (c :: rest) = unquoted true rest := by
  refine unquoted_inside ?_ ?_ rest <;> (rintro rfl; revert h; unfold IsHexDigit; decide)

theorem IsChar.inside {c : List Char} (h : IsChar c) (rest : List Char) :
    unquoted true (c ++ rest) = unquoted true rest := by
  cases h with
  | bare hquote hslash => exact unquoted_inside hquote hslash rest
  | short => rfl
  | unit ha hb hc hd =>
    show unquoted true (_ :: _ :: _ :: _ :: rest) = _
    rw [ha.inside, hb.inside, hc.inside, hd.inside]

theorem IsChars.inside {cs : List Char} (h : IsChars cs) (rest : List Char) :
    unquoted true (cs ++ '\x22' :: rest) = unquoted false rest := by
  induction h with
  | nil => simp [unquoted]
  | cons hc _ ih => rw [List.append_assoc, hc.inside, ih]

theorem IsText.free (h : IsText t) : FreeIff t True := by
  obtain ⟨hcs⟩ := h
  refine ⟨[], fun rest => ?_, iff_of_true ⟨List.not_mem_nil, List.not_mem_nil⟩ trivial⟩
  rw [List.cons_append, List.append_assoc, unquoted, if_pos rfl]
  exact hcs.inside rest

theorem AllDigits.free {ds : List Char} (h : AllDigits ds) : FreeIff ds True := by
  refine freeIff_of_chars fun c hc => ?_
  have hdigit := h c hc
  refine ⟨?_, ?_, ?_⟩ <;> (rintro rfl; cases hdigit)

theorem IsNumber.free (h : IsNumber t) : FreeIff t True := by
  obtain ⟨negative, hwhole, hfraction, hexponent⟩ := h
  have hchars : ∀ s ∈ [[], ['-'], ['+'], ['.'], ['e'], ['E']], FreeIff s True := by
    have hharmless : ∀ s ∈ [[], ['-'], ['+'], ['.'], ['e'], ['E']], ∀ c ∈ s, Harmless c := by
      simp [Harmless]
    exact fun s hs => freeIff_of_chars (hharmless s hs)
  refine FreeIff.left ?_ (hwhole.digits.free.left (FreeIff.left ?_ ?_))
  · cases negative <;> exact hchars _ (by simp)
  · cases hfraction with
    | absent => exact hchars _ (by simp)
    | present hd => exact (hchars ['.'] (by simp)).left hd.free
  · cases hexponent with
    | absent => exact hchars _ (by simp)
    | @present mark sign ds hmark hsign hd =>
      have hmark' : FreeIff [mark] True := by
        simp only [List.mem_cons, List.not_mem_nil, or_false] at hmark
        rcases hmark with rfl | rfl <;> exact hchars _ (by simp)
      have hsign' : FreeIff sign True := by
        simp only [List.mem_cons, List.not_mem_nil, or_false] at hsign
        rcases hsign with rfl | rfl | rfl <;> exact hchars _ (by simp)
      exact hmark'.left (hsign'.left hd.free)

/-- A row has such words exactly if one of its texts has. -/
theorem Row.free {α : Type} {p : α → Prop} {ts : List (List Char)} {row : List Char} {as : List α}
    (hrow : Row ts row) (h : List.Forall₂ (fun t a => FreeIff t (p a)) ts as) :
    FreeIff row (∀ a ∈ as, p a) := by
  induction hrow generalizing as with
  | last hbefore hafter =>
    obtain ⟨a, others, ha, hnone, rfl⟩ := List.forall₂_cons_left_iff.mp h
    obtain rfl := List.forall₂_nil_left_iff.mp hnone
    exact ((freeIff_blanks hbefore).left (ha.right (freeIff_blanks hafter))).congr (by simp)
  | next hbefore hafter _ ih =>
    obtain ⟨a, others, ha, hothers, rfl⟩ := List.forall₂_cons_left_iff.mp h
    have hrest : FreeIff (',' :: _) (∀ a ∈ others, p a) := .mark (by decide) (ih hothers)
    exact ((freeIff_blanks hbefore).left
      (ha.append ((freeIff_blanks hafter).left hrest))).congr (by simp)

theorem Member.Named.free {m : Member} (hm : m.Named) (h : FreeIff m.value p) : FreeIff m.text p :=
  hm.name.free.left ((freeIff_blanks hm.before).left
    (.mark (by decide) ((freeIff_blanks hm.after).left h)))

/-- **Standard values are without words for numbers that are not finite.** -/
theorem IsValue.free (h : IsValue t) : FreeIff t True := by
  induction h with
  | word ht =>
    have hharmless : ∀ s ∈ ["null", "true", "false"], ∀ c ∈ s.toList, Harmless c := by
      simp [Harmless]
    exact freeIff_of_chars (hharmless _ ht)
  | number ht => exact ht.free
  | text ht => exact ht.free
  | emptyList hblanks => exact .between (by decide) (by decide) (freeIff_blanks hblanks)
  | @list ts row hrow _ ih =>
    have hfree := hrow.free (p := fun _ => True) (List.forall₂_same.mpr ih)
    exact .between (by decide) (by decide) (hfree.congr (by simp))
  | emptyDocument hblanks => exact .between (by decide) (by decide) (freeIff_blanks hblanks)
  | @document ms row hrow hnames _ ih =>
    have hmembers : ∀ m ∈ ms, FreeIff m.text True := fun m hm => (hnames m hm).free (ih m hm)
    have hfree := hrow.free (p := fun _ : Member => True)
      (List.forall₂_map_left_iff.mpr (List.forall₂_same.mpr hmembers))
    exact .between (by decide) (by decide) (hfree.congr (by simp))

/-! ### Numbers and texts written -/

theorem isExponent_write (e : ℤ) : IsExponent ('e' :: writeExponent e) := by
  obtain ⟨padded, hwrite, hdigits, hne, -⟩ := writeExponent_eq e
  have hsign : [if e < 0 then '-' else '+'] ∈ [[], ['-'], ['+']] := by
    split <;> simp
  rw [hwrite]
  exact .present (by simp) hsign hdigits hne

theorem isWhole_zero : IsWhole ['0'] := ⟨allDigits_zeros 1, by simp, fun _ => rfl⟩

theorem isWhole_of_head {ds : List Char} (hd : AllDigits ds) (hne : ds ≠ [])
    (hzero : ds.head? ≠ some '0') : IsWhole ds := ⟨hd, hne, fun h => absurd h hzero⟩

/-- Digits are written as the parts of a number, whatever the notation. -/
theorem writeDigits_parts {ds : List Char} (leading : ℤ) (hd : AllDigits ds) (hne : ds ≠ [])
    (hzero : ds.head? ≠ some '0') : ∃ whole fraction exponent,
      writeDigits ds leading = whole ++ (fraction ++ exponent) ∧ IsWhole whole ∧
        IsFraction fraction ∧ IsExponent exponent := by
  have htake : ∀ k, AllDigits (ds.take (k + 1)) ∧ ds.take (k + 1) ≠ [] ∧
      (ds.take (k + 1)).head? ≠ some '0' := fun k =>
    ⟨hd.subset (List.take_subset _ _), by simp [hne], by rwa [List.head?_take, if_neg (by omega)]⟩
  unfold writeDigits
  split
  · refine ⟨_, _, _, List.append_assoc .., ?_, ?_, isExponent_write leading⟩
    · obtain ⟨hall, hsome, hhead⟩ := htake 0
      exact isWhole_of_head hall hsome hhead
    · split
      · exact .absent
      · next hlong =>
        refine .present (hd.subset (List.drop_subset _ _)) ?_
        rwa [ne_eq, List.drop_eq_nil_iff]
  · split
    · refine ⟨['0'], '.' :: (List.replicate ((-leading).toNat - 1) '0' ++ ds), [], ?_, isWhole_zero,
        .present ((allDigits_zeros _).append hd) (by simp [hne]), .absent⟩
      rw [List.append_nil]
      rfl
    · obtain ⟨hall, hsome, hhead⟩ := htake leading.toNat
      refine ⟨_, _, [], by rw [List.append_nil], ?_, ?_, .absent⟩
      · refine isWhole_of_head (hall.append (allDigits_zeros _)) (by simp [hne]) ?_
        rwa [List.head?_append_of_ne_nil _ hsome]
      · split
        · exact .present (allDigits_zeros 1) (by simp)
        · next hlong =>
          refine .present (hd.subset (List.drop_subset _ _)) ?_
          rwa [ne_eq, List.drop_eq_nil_iff]

theorem isNumber_int (n : ℤ) : IsNumber (toString n).toList := by
  rw [int_toList]
  have hwhole : IsWhole (Nat.toDigits 10 n.natAbs) := by
    rcases Nat.eq_zero_or_pos n.natAbs with hzero | hpos
    · rw [hzero]
      exact isWhole_zero
    · exact isWhole_of_head (allDigits_toDigits _) Nat.toDigits_ne_nil (head_toDigits hpos)
  have h := IsNumber.intro (decide (n < 0)) hwhole .absent .absent
  rwa [List.append_nil, List.append_nil] at h

/-- A finite double is written as a number. -/
theorem isNumber_float {x : Float} (hx : x.isFinite = true) :
    IsNumber (spelling.write x).toList := by
  have hparts := Double.parts_eq x
  rw [Double.isFinite_eq] at hx
  cases hu : Double.unpacked x with
  | notANumber | infinity s =>
    rw [hu] at hx
    cases hx
  | zero s =>
    rw [hu] at hparts
    rw [write_finite hparts, zero_write]
    exact .intro _ isWhole_zero (.present (allDigits_zeros 1) (by simp)) .absent
  | finite s m e hm =>
    have hc := Double.canonical_of_unpacked hu
    rw [hu] at hparts
    have hdigits := Double.digits_pos_of_holds hc (Double.shortest_holds (n := s == .negative) hc)
    obtain ⟨hall, hzero⟩ := significantDigits_row hdigits
    obtain ⟨whole, fraction, exponent, hwrite, hwhole, hfraction, hexponent⟩ :=
      writeDigits_parts _ hall (significantDigits_spec hdigits).1 hzero
    rw [write_finite hparts, Decimal.write, hwrite]
    exact .intro _ hwhole hfraction hexponent

theorem isHexDigit_digitChar : ∀ k < 16, IsHexDigit (Nat.digitChar k) := by
  unfold IsHexDigit
  decide

theorem isChar_unitEscape {code : ℕ} (h : code < 0x10000) : IsChar (unitEscape code) := by
  rw [unitEscape, hexOf_four h]
  exact .unit (isHexDigit_digitChar _ (by omega)) (isHexDigit_digitChar _ (by omega))
    (isHexDigit_digitChar _ (by omega)) (isHexDigit_digitChar _ (by omega))

theorem IsChar.chars {c : List Char} (h : IsChar c) : IsChars c := by
  have hchars := IsChars.cons h .nil
  rwa [List.append_nil] at hchars

theorem IsChars.append {cs ds : List Char} (hc : IsChars cs) (hd : IsChars ds) :
    IsChars (cs ++ ds) := by
  induction hc with
  | nil => exact hd
  | cons hc _ ih =>
    rw [List.append_assoc]
    exact .cons hc ih

/-- What a character is written as is standard, whichever way it is. -/
theorem Escaped.isChars {c : Char} {t : List Char} (h : Escaped c t) : IsChars t := by
  cases h with
  | short hl => exact IsChar.chars (.short (by grind))
  | bare hquote hslash hlow => exact IsChar.chars (.bare hquote hslash hlow)
  | unit hone => exact (isChar_unitEscape hone).chars
  | pair htwo =>
    have hrange := toNat_range c
    exact (isChar_unitEscape (by omega)).chars.append (isChar_unitEscape (by omega)).chars

theorem isText_quoted (s : String) : IsText (quotedText s).toList := by
  have hchars : ∀ cs : List Char, IsChars (cs.flatMap escapedChar) := by
    intro cs
    induction cs with
    | nil => exact .nil
    | cons c cs ih => exact (escapedChar_escaped c).isChars.append ih
  rw [quotedText, String.toList_ofList]
  exact .intro (hchars s.toList)

/-! ### Values written -/

/-- What is written of a value: it has no word for a number that is not finite exactly if the
value is finite, and then it is standard. -/
structure Spelled (t : List Char) (v : Value) : Prop where
  free : FreeIff t v.Finite
  standard : v.Finite → IsValue t

theorem IsValue.spelled {v : Value} (h : IsValue t) (hv : v.Finite) : Spelled t v :=
  ⟨h.free.congr (iff_of_true trivial hv), fun _ => h⟩

/-- A double that is not finite is written as a word. -/
theorem write_notFinite {x : Float} (hx : x.isFinite = false) :
    spelling.write x ∈ ["NaN", "Infinity", "-Infinity"] := by
  rw [Double.isFinite_eq] at hx
  cases hu : Double.unpacked x with
  | notANumber => simp [write_nan hu]
  | infinity s => cases s <;> simp [write_infinity hu]
  | zero | finite =>
    rw [hu] at hx
    cases hx

theorem spelled_float (x : Float) : Spelled (spelling.write x).toList (.float x) := by
  cases hx : x.isFinite with
  | true => exact IsValue.spelled (.number (isNumber_float hx)) (Value.allNumbers_float.mpr hx)
  | false =>
    have hv : ¬ (Value.float x).Finite := by
      rw [Value.Finite, Value.allNumbers_float, hx]
      nofun
    have hwords : ∀ w ∈ ["NaN", "Infinity", "-Infinity"],
        '\x22' ∉ w.toList ∧ ¬ NoWord w.toList := by simp [NoWord]
    obtain ⟨hquote, hword⟩ := hwords _ (write_notFinite hx)
    exact ⟨(freeIff_bare hquote).congr (iff_of_false hword hv), fun h => absurd h hv⟩

theorem spelled_list {ts : List (List Char)} {row : List Char} {items : List Value}
    (hrow : Row ts row) (h : List.Forall₂ Spelled ts items) :
    Spelled ('[' :: (row ++ [']'])) (.list items) := by
  have hfree : FreeIff row (∀ v ∈ items, v.Finite) := hrow.free (h.imp fun _ _ hs => hs.free)
  refine ⟨(hfree.congr Value.allNumbers_list.symm).between (by decide) (by decide), fun hv => ?_⟩
  exact .list hrow (forall₂_left h (Value.allNumbers_list.mp hv) fun _ _ hs => hs.standard)

/-- The text of a field: a member with a name in order and the text of its value. -/
structure FieldSpelled (m : Member) (field : String × Value) : Prop where
  named : m.Named
  value : Spelled m.value field.2

theorem spelled_document {ms : List Member} {row : List Char} {fields : Document}
    (hrow : Row (ms.map Member.text) row) (h : List.Forall₂ FieldSpelled ms fields) :
    Spelled ('\x7b' :: (row ++ ['\x7d'])) (.document fields) := by
  have hfree : FreeIff row (∀ field ∈ fields, field.2.Finite) :=
    hrow.free (List.forall₂_map_left_iff.mpr (h.imp fun _ _ hs => hs.named.free hs.value.free))
  refine ⟨(hfree.congr Value.allNumbers_document.symm).between (by decide) (by decide), fun hv => ?_⟩
  exact .document hrow (forall₂_left h (fun _ _ => trivial) fun _ _ hs _ => hs.named)
    (forall₂_left h (Value.allNumbers_document.mp hv) fun _ _ hs => hs.value.standard)

theorem spelled_bracketed_list {layout : Layout} (depth : ℕ) {texts : List String}
    {items : List Value} (h : List.Forall₂ Spelled (texts.map String.toList) items) :
    Spelled (layout.bracketed depth "[" "]" texts).toList (.list items) := by
  by_cases hne : texts = []
  · subst hne
    obtain rfl := List.forall₂_nil_left_iff.mp h
    have htext : (layout.bracketed depth "[" "]" []).toList = _ := bracketed_nil layout depth '[' ']'
    rw [htext]
    exact (IsValue.emptyList allBlank_nil).spelled (Value.allNumbers_list.mpr nofun)
  · obtain ⟨row, hrow, htext⟩ := bracketed_row layout depth '[' ']' hne
    have htext : (layout.bracketed depth "[" "]" texts).toList = _ := htext
    rw [htext]
    exact spelled_list hrow h

theorem spelled_bracketed_document {layout : Layout} (depth : ℕ) {texts : List String}
    {ms : List Member} {fields : Document} (htexts : texts.map String.toList = ms.map Member.text)
    (h : List.Forall₂ FieldSpelled ms fields) :
    Spelled (layout.bracketed depth "\x7b" "\x7d" texts).toList (.document fields) := by
  by_cases hne : texts = []
  · subst hne
    obtain rfl := List.map_eq_nil_iff.mp htexts.symm
    obtain rfl := List.forall₂_nil_left_iff.mp h
    have htext : (layout.bracketed depth "\x7b" "\x7d" []).toList = _ :=
      bracketed_nil layout depth '\x7b' '\x7d'
    rw [htext]
    exact (IsValue.emptyDocument allBlank_nil).spelled (Value.allNumbers_document.mpr nofun)
  · obtain ⟨row, hrow, htext⟩ := bracketed_row layout depth '\x7b' '\x7d' hne
    have htext : (layout.bracketed depth "\x7b" "\x7d" texts).toList = _ := htext
    rw [htext]
    exact spelled_document (htexts ▸ hrow) h

mutual

/-- A rendered plain value is standard exactly if it is finite. -/
theorem spelled_render (layout : Layout) : ∀ (v : Value) {depth : ℕ} {text : String},
    Plain v → renderAt layout depth v = some text → Spelled text.toList v
  | .null, _, _, _, h => by
    unfold renderAt at h
    obtain rfl := Option.some.inj h
    exact IsValue.spelled (.word (by simp)) Value.allNumbers_null
  | .bool b, _, _, _, h => by
    unfold renderAt at h
    obtain rfl := Option.some.inj h
    exact IsValue.spelled (.word (by cases b <;> simp)) (Value.allNumbers_bool b)
  | .int n, _, _, _, h => by
    unfold renderAt at h
    obtain rfl := Option.some.inj h
    exact IsValue.spelled (.number (isNumber_int n)) (Value.allNumbers_int n)
  | .float x, _, _, _, h => by
    unfold renderAt at h
    obtain rfl := Option.some.inj h
    exact spelled_float x
  | .text s, _, _, _, h => by
    unfold renderAt at h
    obtain rfl := Option.some.inj h
    exact IsValue.spelled (.text (isText_quoted s)) (Value.allNumbers_text s)
  | .list items, depth, _, hv, h => by
    unfold renderAt at h
    unfold Plain at hv
    obtain ⟨texts, htexts, rfl⟩ := Option.map_eq_some_iff.mp h
    exact spelled_bracketed_list depth (spelled_items layout items hv htexts)
  | .document fields, depth, _, hv, h => by
    unfold renderAt at h
    unfold Plain at hv
    obtain ⟨texts, htexts, rfl⟩ := Option.map_eq_some_iff.mp h
    obtain ⟨ms, hms, hfields⟩ := spelled_fields layout fields hv.2 htexts
    exact spelled_bracketed_document depth hms hfields
  | .tuple _, _, _, hv, _ | .metric _, _, _, hv, _ | .point _, _, _, hv, _ | .box _, _, _, hv, _
  | .distance _, _, _, hv, _ | .circle _, _, _, hv, _ | .sphere _, _, _, hv, _
  | .polygon _, _, _, hv, _ | .geoJson _, _, _, hv, _ | .geoCommand _ _, _, _, hv, _
  | .foreign _ _, _, _, hv, _ => by
    unfold Plain at hv
    exact hv.elim

theorem spelled_items (layout : Layout) : ∀ (items : List Value) {depth : ℕ} {texts : List String},
    PlainItems items → renderItems layout depth items = some texts →
    List.Forall₂ Spelled (texts.map String.toList) items
  | [], _, _, _, h => by
    unfold renderItems at h
    obtain rfl := Option.some.inj h
    exact .nil
  | v :: rest, depth, _, hv, h => by
    unfold renderItems at h
    unfold PlainItems at hv
    obtain ⟨text, htext, h⟩ := Option.bind_eq_some_iff.mp h
    obtain ⟨texts, htexts, h⟩ := Option.bind_eq_some_iff.mp h
    obtain rfl := Option.some.inj h
    exact .cons (spelled_render layout v hv.1 htext) (spelled_items layout rest hv.2 htexts)

theorem spelled_fields (layout : Layout) :
    ∀ (fields : List (String × Value)) {depth : ℕ} {texts : List String},
    PlainFields fields → renderFields layout depth fields = some texts →
    ∃ ms : List Member, texts.map String.toList = ms.map Member.text ∧
      List.Forall₂ FieldSpelled ms fields
  | [], _, _, _, h => by
    unfold renderFields at h
    obtain rfl := Option.some.inj h
    exact ⟨[], rfl, .nil⟩
  | (name, v) :: rest, depth, _, hv, h => by
    unfold renderFields at h
    unfold PlainFields at hv
    obtain ⟨text, htext, h⟩ := Option.bind_eq_some_iff.mp h
    obtain ⟨texts, htexts, h⟩ := Option.bind_eq_some_iff.mp h
    obtain rfl := Option.some.inj h
    obtain ⟨ms, hms, hrest⟩ := spelled_fields layout rest hv.2 htexts
    obtain ⟨m, hm, hname, hbefore, hafter, hvalue⟩ := field_text layout name text
    refine ⟨m :: ms, by rw [List.map_cons, List.map_cons, hm, hms], .cons ⟨⟨?_, hbefore, hafter⟩, ?_⟩
      hrest⟩
    · rw [hname]
      exact isText_quoted name
    · rw [hvalue]
      exact spelled_render layout v hv.1 htext

end

/-- **What is written of a plain value is standard exactly if every double in it is finite.** -/
theorem standard_render_iff {layout : Layout} {v : Value} {text blanks : String} (hv : Plain v)
    (h : render? layout v = some text) (hblanks : AllBlank blanks.toList) :
    Standard (text ++ blanks) ↔ v.Finite := by
  obtain ⟨hfree, hstandard⟩ := spelled_render layout v hv h
  constructor
  · rintro ⟨hbefore, ht, hafter, htext⟩
    have hall : FreeIff (text ++ blanks).toList True := by
      rw [htext]
      exact (freeIff_blanks hbefore).left (ht.free.right (freeIff_blanks hafter))
    have hown : FreeIff (text ++ blanks).toList v.Finite := by
      rw [String.toList_append]
      exact hfree.right (freeIff_blanks hblanks)
    exact (hall.unique hown).mp trivial
  · intro hfinite
    exact .intro allBlank_nil (hstandard hfinite) hblanks String.toList_append

/-- So the text of a finite value is standard, and stands for that value. -/
theorem standard_of_render {layout : Layout} {v : Value} {text : String} (hv : Plain v)
    (hfinite : v.Finite) (h : render? layout v = some text) :
    Standard text ∧ parse? text = some v := by
  have hblank : AllBlank "".toList := by simp [AllBlank]
  have hstandard := (standard_render_iff hv h hblank).mpr hfinite
  have hread := parse?_render hv h hblank
  rw [String.append_empty] at hstandard hread
  exact ⟨hstandard, hread⟩

end Json
end ShapeCodec
