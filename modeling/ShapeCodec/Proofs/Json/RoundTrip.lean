/-
# Values read back

What is written of a plain value is read back as that value, in either layout and with blanks
after it. The proof goes along the value as the writer does. It carries that the rest of the text
does not carry on a number, which holds before a comma, a bracket, a blank and the end, and that
the bound of the reader is at least twice the length of the text, one step for a value and one
for its place in a list, of which each has a character of its own.

Rows are read apart from how they were written: whatever blanks stand around its parts, a row is
read as the values of its parts, and the parts that a layout sets apart are one.

Key definitions: `Json.ReadsBack`, `Json.FieldReadsBack`.
Key theorems: `Json.readItems_row`, `Json.readFields_row`, `Json.bracketed_row`,
`Json.readsBack_render`, `Json.parse?_render`.
-/
import ShapeCodec.Proofs.Json.Grammar
import ShapeCodec.Proofs.Json.Plain

namespace ShapeCodec
namespace Json

/-! ### First characters of values -/

/-- The characters with which a value can begin. -/
def Starts (c : Char) : Prop := isBlank c = false ∧ c ≠ ']'

theorem Opens.ne {c d : Char} (h : Opens c) (hd : d.isDigit = false)
    (hmem : d ∉ ['n', 't', 'f', 'N', 'I', '-']) : c ≠ d := by
  rintro rfl
  rcases h with h | h
  · rw [hd] at h
    cases h
  · exact hmem h

theorem Opens.starts {c : Char} (h : Opens c) : Starts c := by
  have hne : ∀ d, d.isDigit = false → d ∉ ['n', 't', 'f', 'N', 'I', '-'] → c ≠ d :=
    fun _ => h.ne
  refine ⟨?_, hne ']' rfl (by decide)⟩
  simp [isBlank, hne ' ' rfl (by decide), hne '\t' rfl (by decide), hne '\n' rfl (by decide),
    hne '\r' rfl (by decide)]

theorem readValue_opens {c : Char} (h : Opens c) (bound : ℕ) (s : List Char) :
    readValue (bound + 1) (c :: s) = readPlain (c :: s) := by
  have hne : ∀ d, d.isDigit = false → d ∉ ['n', 't', 'f', 'N', 'I', '-'] → c ≠ d :=
    fun _ => h.ne
  rw [readValue]
  · rfl
  · rintro tail ⟨⟩
    exact hne _ rfl (by decide) rfl
  · rintro tail ⟨⟩
    exact hne _ rfl (by decide) rfl
  · rintro tail ⟨⟩
    exact hne _ rfl (by decide) rfl

/-! ### Texts of values -/

/-- A text that is read as a value, in front of what does not carry it on. -/
structure ReadsBack (text : List Char) (v : Value) : Prop where
  head : ∃ c s, text = c :: s ∧ Starts c
  read : ∀ bound rest, Ends rest → 2 * text.length ≤ bound →
    readValue bound (text ++ rest) = some (v, rest)

theorem ReadsBack.skipBlanks {text : List Char} {v : Value} (h : ReadsBack text v)
    (rest : List Char) : skipBlanks (text ++ rest) = text ++ rest := by
  obtain ⟨c, s, rfl, hc⟩ := h.head
  exact skipBlanks_cons hc.1 _

/-- Words and numbers. -/
theorem readsBack_of_readPlain {text : List Char} {v : Value}
    (h : ∀ rest, Ends rest → readPlain (text ++ rest) = some (v, rest)) : ReadsBack text v := by
  have hnil := h [] (by nofun)
  rw [List.append_nil] at hnil
  obtain ⟨c, s, rfl, hc⟩ := head_of_readPlain hnil
  refine ⟨⟨c, s, rfl, hc.starts⟩, fun bound rest hr hb => ?_⟩
  obtain ⟨bound, rfl⟩ : ∃ k, bound = k + 1 := ⟨bound - 1, by rw [List.length_cons] at hb; omega⟩
  rw [List.cons_append, readValue_opens hc]
  exact h rest hr

theorem TextReads.readsBack {t : List Char} {s : String} (h : TextReads t s) :
    ReadsBack t (.text s) := by
  obtain ⟨body, hbody, -⟩ := h []
  rw [List.append_nil] at hbody
  refine ⟨⟨'\x22', body, hbody, by decide, by decide⟩, fun bound rest _ hb => ?_⟩
  obtain ⟨bound, rfl⟩ : ∃ k, bound = k + 1 := ⟨bound - 1, by
    rw [hbody, List.length_cons] at hb
    omega⟩
  obtain ⟨body, hbody, hread⟩ := h rest
  rw [hbody, readValue, hread]
  rfl

/-! ### Rows read -/

section

variable {ts : List (List Char)} {row rest : List Char}

/-- Past its blanks a row begins with the first of its texts. -/
theorem Row.first (hrow : Row ts row) (rest : List Char) :
    ∃ t others s, ts = t :: others ∧ skipBlanks (row ++ rest) = skipBlanks (t ++ s) := by
  cases hrow with
  | @last before t after hbefore =>
    refine ⟨t, [], after ++ rest, rfl, ?_⟩
    rw [List.append_assoc, skipBlanks_append hbefore, List.append_assoc]
  | @next before t after row others hbefore =>
    refine ⟨t, others, (after ++ ',' :: row) ++ rest, rfl, ?_⟩
    rw [List.append_assoc, skipBlanks_append hbefore, List.append_assoc]

/-- The items of a list are read from the row of their texts. -/
theorem readItems_row (hrow : Row ts row) (rest : List Char) :
    ∀ (bound : ℕ) {items : List Value}, List.Forall₂ ReadsBack ts items →
      2 * row.length + 1 ≤ bound →
      readItems bound (skipBlanks (row ++ ']' :: rest)) = some (items, rest) := by
  induction hrow with
  | @last before t after hbefore hafter =>
    intro bound items hitems hb
    obtain ⟨v, others, hv, hnone, rfl⟩ := List.forall₂_cons_left_iff.mp hitems
    obtain rfl := List.forall₂_nil_left_iff.mp hnone
    obtain ⟨bound, rfl⟩ : ∃ k, bound = k + 1 := ⟨bound - 1, by omega⟩
    simp only [List.length_append] at hb
    have hends : Ends (after ++ ']' :: rest) := ends_append hafter (ends_cons (by decide))
    have hread := hv.read bound _ hends (by omega)
    rw [List.append_assoc, skipBlanks_append hbefore, List.append_assoc, hv.skipBlanks, readItems,
      hread]
    simp only [Option.bind_eq_bind, Option.bind_some, skipBlanks_append hafter,
      skipBlanks_cons (c := ']') rfl]
    rfl
  | @next before t after row ts hbefore hafter hrow ih =>
    intro bound items hitems hb
    obtain ⟨v, others, hv, hothers, rfl⟩ := List.forall₂_cons_left_iff.mp hitems
    obtain ⟨bound, rfl⟩ : ∃ k, bound = k + 1 := ⟨bound - 1, by omega⟩
    simp only [List.length_append, List.length_cons] at hb
    have hends : Ends (after ++ ',' :: (row ++ ']' :: rest)) :=
      ends_append hafter (ends_cons (by decide))
    have hread := hv.read bound _ hends (by omega)
    have hrest := ih bound hothers (by omega)
    simp only [List.append_assoc, List.cons_append]
    rw [skipBlanks_append hbefore, hv.skipBlanks, readItems, hread]
    simp only [Option.bind_eq_bind, Option.bind_some, skipBlanks_append hafter,
      skipBlanks_cons (c := ',') rfl, hrest]
    rfl

/-- The text of a member that is read as a field. -/
def FieldReadsBack (t : List Char) (field : String × Value) : Prop :=
  ∃ m : Member, m.text = t ∧ TextReads m.name field.1 ∧ AllBlank m.before ∧ AllBlank m.after ∧
    ReadsBack m.value field.2

/-- The name and the value of a field are read from its text. -/
theorem FieldReadsBack.steps {t s : List Char} {field : String × Value} (bound : ℕ)
    (h : FieldReadsBack t field) (hs : Ends s) (hb : 2 * t.length ≤ bound) :
    ∃ body inner, t ++ s = '\x22' :: body ∧ readText body = some (field.1, inner) ∧
      ∃ inner', skipBlanks inner = ':' :: inner' ∧
        readValue bound (skipBlanks inner') = some (field.2, s) := by
  obtain ⟨m, rfl, hname, hbefore, hafter, hvalue⟩ := h
  obtain ⟨body, hbody, htext⟩ := hname (m.before ++ ':' :: (m.after ++ (m.value ++ s)))
  refine ⟨body, _, ?_, htext, m.after ++ (m.value ++ s), ?_, ?_⟩
  · rw [← hbody]
    simp only [Member.text, List.append_assoc, List.cons_append]
  · rw [skipBlanks_append hbefore, skipBlanks_cons rfl]
  · rw [skipBlanks_append hafter, hvalue.skipBlanks]
    simp only [Member.text, List.length_append, List.length_cons] at hb
    exact hvalue.read bound s hs (by omega)

theorem FieldReadsBack.head {t : List Char} {field : String × Value} (h : FieldReadsBack t field) :
    ∃ s, t = '\x22' :: s := by
  obtain ⟨body, -, hbody, -⟩ := h.steps (s := []) (2 * t.length) nofun le_rfl
  exact ⟨body, by rwa [List.append_nil] at hbody⟩

theorem FieldReadsBack.skipBlanks {t : List Char} {field : String × Value}
    (h : FieldReadsBack t field) (rest : List Char) : skipBlanks (t ++ rest) = t ++ rest := by
  obtain ⟨s, rfl⟩ := h.head
  exact skipBlanks_cons rfl _

/-- The fields of a document are read from the row of their texts. -/
theorem readFields_row (hrow : Row ts row) (rest : List Char) :
    ∀ (bound : ℕ) {fields : List (String × Value)}, List.Forall₂ FieldReadsBack ts fields →
      2 * row.length + 1 ≤ bound →
      readFields bound (skipBlanks (row ++ '\x7d' :: rest)) = some (fields, rest) := by
  induction hrow with
  | @last before t after hbefore hafter =>
    intro bound fields hfields hb
    obtain ⟨field, others, hfield, hnone, rfl⟩ := List.forall₂_cons_left_iff.mp hfields
    obtain rfl := List.forall₂_nil_left_iff.mp hnone
    obtain ⟨bound, rfl⟩ : ∃ k, bound = k + 1 := ⟨bound - 1, by omega⟩
    simp only [List.length_append] at hb
    have hends : Ends (after ++ '\x7d' :: rest) := ends_append hafter (ends_cons (by decide))
    obtain ⟨body, inner, hbody, htext, inner', hinner, hvalue⟩ :=
      hfield.steps bound hends (by omega)
    rw [List.append_assoc, skipBlanks_append hbefore, List.append_assoc, hfield.skipBlanks, hbody,
      readFields]
    simp only [Option.bind_eq_bind, Option.bind_some, htext, hinner, hvalue,
      skipBlanks_append hafter, skipBlanks_cons (c := '\x7d') rfl]
    rfl
  | @next before t after row ts hbefore hafter hrow ih =>
    intro bound fields hfields hb
    obtain ⟨field, others, hfield, hothers, rfl⟩ := List.forall₂_cons_left_iff.mp hfields
    obtain ⟨bound, rfl⟩ : ∃ k, bound = k + 1 := ⟨bound - 1, by omega⟩
    simp only [List.length_append, List.length_cons] at hb
    have hends : Ends (after ++ ',' :: (row ++ '\x7d' :: rest)) :=
      ends_append hafter (ends_cons (by decide))
    obtain ⟨body, inner, hbody, htext, inner', hinner, hvalue⟩ :=
      hfield.steps bound hends (by omega)
    have hrest := ih bound hothers (by omega)
    simp only [List.append_assoc, List.cons_append]
    rw [skipBlanks_append hbefore, hfield.skipBlanks, hbody, readFields]
    simp only [Option.bind_eq_bind, Option.bind_some, htext, hinner, hvalue,
      skipBlanks_append hafter, skipBlanks_cons (c := ',') rfl, hrest]
    rfl

end

/-! ### Lists and documents -/

theorem readValue_list {inside s : List Char} {c : Char} (hskip : skipBlanks inside = c :: s)
    (hc : c ≠ ']') (bound : ℕ) : readValue (bound + 1) ('[' :: inside) =
      (readItems bound (skipBlanks inside)).map fun p => (.list p.1, p.2) := by
  rw [readValue, hskip]
  split
  · next h => exact absurd (List.cons.inj h).1 hc
  · rfl

theorem readValue_document {inside s : List Char} {c : Char} (hskip : skipBlanks inside = c :: s)
    (hc : c ≠ '\x7d') (bound : ℕ) : readValue (bound + 1) ('\x7b' :: inside) =
      (readFields bound (skipBlanks inside)).map fun p => (documentOf p.1, p.2) := by
  rw [readValue, hskip]
  split
  · next h => exact absurd (List.cons.inj h).1 hc
  · rfl

theorem readsBack_list {ts : List (List Char)} {row : List Char} {items : List Value}
    (hrow : Row ts row) (h : List.Forall₂ ReadsBack ts items) :
    ReadsBack ('[' :: (row ++ [']'])) (.list items) := by
  refine ⟨⟨'[', _, rfl, by decide, by decide⟩, fun bound rest hr hb => ?_⟩
  simp only [List.length_cons, List.length_append] at hb
  obtain ⟨bound, rfl⟩ : ∃ k, bound = k + 1 := ⟨bound - 1, by omega⟩
  have hitems := readItems_row hrow rest bound h (by omega)
  obtain ⟨t, others, s, rfl, hfirst⟩ := hrow.first (']' :: rest)
  obtain ⟨v, _, hv, -, -⟩ := List.forall₂_cons_left_iff.mp h
  obtain ⟨c, s', rfl, hc⟩ := hv.head
  rw [hv.skipBlanks] at hfirst
  rw [List.cons_append, List.append_assoc, List.singleton_append,
    readValue_list hfirst hc.2, hitems]
  rfl

theorem readsBack_emptyList {blanks : List Char} (h : AllBlank blanks) :
    ReadsBack ('[' :: (blanks ++ [']'])) (.list []) := by
  refine ⟨⟨'[', _, rfl, by decide, by decide⟩, fun bound rest hr hb => ?_⟩
  rw [List.length_cons] at hb
  obtain ⟨bound, rfl⟩ : ∃ k, bound = k + 1 := ⟨bound - 1, by omega⟩
  rw [List.cons_append, List.append_assoc, readValue, skipBlanks_append h, List.singleton_append,
    skipBlanks_cons rfl]
  rfl

theorem readsBack_document {ts : List (List Char)} {row : List Char}
    {fields : List (String × Value)} (hrow : Row ts row)
    (h : List.Forall₂ FieldReadsBack ts fields) :
    ReadsBack ('\x7b' :: (row ++ ['\x7d'])) (documentOf fields) := by
  refine ⟨⟨'\x7b', _, rfl, by decide, by decide⟩, fun bound rest hr hb => ?_⟩
  simp only [List.length_cons, List.length_append] at hb
  obtain ⟨bound, rfl⟩ : ∃ k, bound = k + 1 := ⟨bound - 1, by omega⟩
  have hfields := readFields_row hrow rest bound h (by omega)
  obtain ⟨t, others, s, rfl, hfirst⟩ := hrow.first ('\x7d' :: rest)
  obtain ⟨field, _, hfield, -, -⟩ := List.forall₂_cons_left_iff.mp h
  obtain ⟨s', rfl⟩ := hfield.head
  rw [hfield.skipBlanks] at hfirst
  rw [List.cons_append, List.append_assoc, List.singleton_append,
    readValue_document hfirst (by decide), hfields]
  rfl

theorem readsBack_emptyDocument {blanks : List Char} (h : AllBlank blanks) :
    ReadsBack ('\x7b' :: (blanks ++ ['\x7d'])) (.document []) := by
  refine ⟨⟨'\x7b', _, rfl, by decide, by decide⟩, fun bound rest hr hb => ?_⟩
  rw [List.length_cons] at hb
  obtain ⟨bound, rfl⟩ : ∃ k, bound = k + 1 := ⟨bound - 1, by omega⟩
  rw [List.cons_append, List.append_assoc, readValue, skipBlanks_append h, List.singleton_append,
    skipBlanks_cons rfl]
  rfl

/-! ### Rows written -/

theorem allBlank_lineBreak (layout : Layout) (depth : ℕ) :
    AllBlank (layout.lineBreak depth).toList := by
  cases layout with
  | compact => nofun
  | indented width =>
    intro c hc
    rw [Layout.lineBreak, String.toList_ofList, List.mem_cons] at hc
    rcases hc with rfl | hc
    · rfl
    · rw [List.eq_of_mem_replicate hc]
      rfl

theorem colon_toList (layout : Layout) :
    ∃ blanks, layout.colon.toList = ':' :: blanks ∧ AllBlank blanks := by
  cases layout with
  | compact => exact ⟨[], rfl, nofun⟩
  | indented => exact ⟨[' '], by simp [Layout.colon], by simp [AllBlank, isBlank]⟩

/-- Texts joined by a comma and blanks, with blanks before and after them, are a row. -/
theorem row_joined {separator : String} {blanks after : List Char}
    (hsep : separator.toList = ',' :: blanks) (hblanks : AllBlank blanks)
    (hafter : AllBlank after) : ∀ {before : List Char} {texts : List String}, AllBlank before →
      texts ≠ [] →
      Row (texts.map String.toList) (before ++ ((joined separator texts).toList ++ after))
  | _, [t], hbefore, _ => .last hbefore hafter
  | before, t :: u :: texts, hbefore, _ => by
    have hrest := row_joined hsep hblanks hafter hblanks (List.cons_ne_nil u texts)
    have hjoined : (joined separator (t :: u :: texts)).toList ++ after =
        t.toList ++ ([] ++ ',' :: (blanks ++ ((joined separator (u :: texts)).toList ++ after))) := by
      have hcons : joined separator (t :: u :: texts) =
        t ++ separator ++ joined separator (u :: texts) := rfl
      simp [hcons, String.toList_append, hsep]
    rw [hjoined]
    exact .next hbefore nofun hrest

/-- Parts between two brackets are a row between them, where there are any. -/
theorem bracketed_row (layout : Layout) (depth : ℕ) (opening closing : Char) {parts : List String}
    (h : parts ≠ []) : ∃ row, Row (parts.map String.toList) row ∧
      (layout.bracketed depth (String.singleton opening) (String.singleton closing) parts).toList =
        opening :: (row ++ [closing]) := by
  have hsep : ("," ++ layout.lineBreak (depth + 1)).toList =
      ',' :: (layout.lineBreak (depth + 1)).toList := by
    rw [String.toList_append]
    rfl
  refine ⟨_, row_joined hsep (allBlank_lineBreak layout (depth + 1))
    (allBlank_lineBreak layout depth) (allBlank_lineBreak layout (depth + 1)) h, ?_⟩
  unfold Layout.bracketed
  rw [if_neg (by simpa using h)]
  simp [String.toList_append]

theorem bracketed_nil (layout : Layout) (depth : ℕ) (opening closing : Char) :
    (layout.bracketed depth (String.singleton opening) (String.singleton closing) []).toList =
      opening :: ([] ++ [closing]) := by
  simp [Layout.bracketed]

/-- The text of a field is that of a member. -/
theorem field_text (layout : Layout) (name text : String) : ∃ m : Member,
    m.text = (quotedText name ++ layout.colon ++ text).toList ∧
      m.name = (quotedText name).toList ∧ AllBlank m.before ∧ AllBlank m.after ∧
      m.value = text.toList := by
  obtain ⟨blanks, hcolon, hblanks⟩ := colon_toList layout
  refine ⟨⟨(quotedText name).toList, [], blanks, text.toList⟩, ?_, rfl, nofun, hblanks, rfl⟩
  simp [Member.text, String.toList_append, hcolon]

theorem readsBack_bracketed_list {layout : Layout} (depth : ℕ) {texts : List String}
    {items : List Value} (h : List.Forall₂ ReadsBack (texts.map String.toList) items) :
    ReadsBack (layout.bracketed depth "[" "]" texts).toList (.list items) := by
  by_cases hne : texts = []
  · subst hne
    obtain rfl := List.forall₂_nil_left_iff.mp h
    have htext : (layout.bracketed depth "[" "]" []).toList = _ := bracketed_nil layout depth '[' ']'
    rw [htext]
    exact readsBack_emptyList allBlank_nil
  · obtain ⟨row, hrow, htext⟩ := bracketed_row layout depth '[' ']' hne
    have htext : (layout.bracketed depth "[" "]" texts).toList = _ := htext
    rw [htext]
    exact readsBack_list hrow h

theorem readsBack_bracketed_document {layout : Layout} (depth : ℕ) {texts : List String}
    {fields : List (String × Value)} (hnames : (fields.map Prod.fst).Nodup)
    (h : List.Forall₂ FieldReadsBack (texts.map String.toList) fields) :
    ReadsBack (layout.bracketed depth "\x7b" "\x7d" texts).toList (.document fields) := by
  by_cases hne : texts = []
  · subst hne
    obtain rfl := List.forall₂_nil_left_iff.mp h
    have htext : (layout.bracketed depth "\x7b" "\x7d" []).toList = _ :=
      bracketed_nil layout depth '\x7b' '\x7d'
    rw [htext]
    exact readsBack_emptyDocument allBlank_nil
  · obtain ⟨row, hrow, htext⟩ := bracketed_row layout depth '\x7b' '\x7d' hne
    have htext : (layout.bracketed depth "\x7b" "\x7d" texts).toList = _ := htext
    rw [htext, ← documentOf_nodup hnames]
    exact readsBack_document hrow h

/-! ### All values -/

mutual

/-- A rendered plain value is read back. -/
theorem readsBack_render (layout : Layout) : ∀ (v : Value) {depth : ℕ} {text : String},
    Plain v → renderAt layout depth v = some text → ReadsBack text.toList v
  | .null, _, _, _, h => by
    unfold renderAt at h
    obtain rfl := Option.some.inj h
    exact readsBack_of_readPlain fun rest _ => rfl
  | .bool b, _, _, _, h => by
    unfold renderAt at h
    obtain rfl := Option.some.inj h
    cases b <;> exact readsBack_of_readPlain fun rest _ => rfl
  | .int n, _, _, _, h => by
    unfold renderAt at h
    obtain rfl := Option.some.inj h
    exact readsBack_of_readPlain fun rest hr => readPlain_int n hr
  | .float x, _, _, _, h => by
    unfold renderAt at h
    obtain rfl := Option.some.inj h
    exact readsBack_of_readPlain fun rest hr => readPlain_float x hr
  | .text s, _, _, _, h => by
    unfold renderAt at h
    obtain rfl := Option.some.inj h
    exact TextReads.readsBack (readText_quotedText s)
  | .list items, depth, _, hv, h => by
    unfold renderAt at h
    unfold Plain at hv
    obtain ⟨texts, htexts, rfl⟩ := Option.map_eq_some_iff.mp h
    exact readsBack_bracketed_list depth (readsBack_items layout items hv htexts)
  | .document fields, depth, _, hv, h => by
    unfold renderAt at h
    unfold Plain at hv
    obtain ⟨texts, htexts, rfl⟩ := Option.map_eq_some_iff.mp h
    exact readsBack_bracketed_document depth hv.1 (readsBack_fields layout fields hv.2 htexts)
  | .tuple _, _, _, hv, _ | .metric _, _, _, hv, _ | .point _, _, _, hv, _ | .box _, _, _, hv, _
  | .distance _, _, _, hv, _ | .circle _, _, _, hv, _ | .sphere _, _, _, hv, _
  | .polygon _, _, _, hv, _ | .geoJson _, _, _, hv, _ | .geoCommand _ _, _, _, hv, _
  | .foreign _ _, _, _, hv, _ => by
    unfold Plain at hv
    exact hv.elim

theorem readsBack_items (layout : Layout) : ∀ (items : List Value) {depth : ℕ} {texts : List String},
    PlainItems items → renderItems layout depth items = some texts →
    List.Forall₂ ReadsBack (texts.map String.toList) items
  | [], _, _, _, h => by
    unfold renderItems at h
    obtain rfl := Option.some.inj h
    exact .nil
  | v :: rest, depth, _, hv, h => by
    unfold renderItems at h
    unfold PlainItems at hv
    obtain ⟨text, htext, h⟩ := Option.bind_eq_some_iff.mp h
    obtain ⟨texts, htexts, h⟩ := Option.bind_eq_some_iff.mp h
    obtain rfl := Option.some.inj h
    exact .cons (readsBack_render layout v hv.1 htext) (readsBack_items layout rest hv.2 htexts)

theorem readsBack_fields (layout : Layout) :
    ∀ (fields : List (String × Value)) {depth : ℕ} {texts : List String},
    PlainFields fields → renderFields layout depth fields = some texts →
    List.Forall₂ FieldReadsBack (texts.map String.toList) fields
  | [], _, _, _, h => by
    unfold renderFields at h
    obtain rfl := Option.some.inj h
    exact .nil
  | (name, v) :: rest, depth, _, hv, h => by
    unfold renderFields at h
    unfold PlainFields at hv
    obtain ⟨text, htext, h⟩ := Option.bind_eq_some_iff.mp h
    obtain ⟨texts, htexts, h⟩ := Option.bind_eq_some_iff.mp h
    obtain rfl := Option.some.inj h
    obtain ⟨m, hm, hname, hbefore, hafter, hvalue⟩ := field_text layout name text
    have hread := readsBack_render layout v hv.1 htext
    refine .cons ⟨m, hm, ?_, hbefore, hafter, ?_⟩ (readsBack_fields layout rest hv.2 htexts)
    · rw [hname]
      exact readText_quotedText name
    · rw [hvalue]
      exact hread

end

/-- A text that is read as a value is parsed as it, whatever blanks are around it. -/
theorem ReadsBack.parse? {t before after : List Char} {v : Value} {text : String}
    (h : ReadsBack t v) (hbefore : AllBlank before) (hafter : AllBlank after)
    (htext : text.toList = before ++ (t ++ after)) : parse? text = some v := by
  have hends : Ends after := by
    have hnil := ends_append (s := []) hafter nofun
    rwa [List.append_nil] at hnil
  have hrest : Json.skipBlanks after = [] := by
    have hnil := skipBlanks_append hafter []
    rwa [List.append_nil] at hnil
  unfold Json.parse?
  simp only [htext]
  rw [skipBlanks_append hbefore, h.skipBlanks,
    h.read _ _ hends (by simp only [List.length_append]; omega)]
  simp [hrest]

/-- **Reading undoes writing**: a plain value is read back from its text, whatever the layout and
the blanks after it. -/
theorem parse?_render {layout : Layout} {v : Value} {text blanks : String} (hv : Plain v)
    (h : render? layout v = some text) (hblanks : AllBlank blanks.toList) :
    parse? (text ++ blanks) = some v :=
  (readsBack_render layout v hv h).parse? allBlank_nil hblanks String.toList_append

end Json
end ShapeCodec
