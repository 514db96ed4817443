/-
# Plain values

The values that JSON text stands for. The reader gives no others, whatever the text, and each of
them can be written. In a document every name stands once: of fields that repeat a name the
reader keeps one, and fields of distinct names are put into a document as they stand, so that
nothing of a written document is lost.

Key definitions: `Json.Plain`.
Key theorems: `Json.documentOf_nodup`, `Json.documentOf_eq`, `Json.parse?_plain`,
`Json.render_plain`.
-/
import ShapeCodec.Json.Printer
import ShapeCodec.Json.Reader

namespace ShapeCodec
namespace Json

/-! ### Plain values -/

mutual

/-- The values that JSON text stands for: no tuples, metrics, shapes or other objects, and each
name once in a document. -/
def Plain : Value → Prop
  | .null => True
  | .bool _ => True
  | .int _ => True
  | .float _ => True
  | .text _ => True
  | .list items => PlainItems items
  | .document fields => (fields.map Prod.fst).Nodup ∧ PlainFields fields
  | _ => False

/-- Items that are all plain. -/
def PlainItems : List Value → Prop
  | [] => True
  | v :: rest => Plain v ∧ PlainItems rest

/-- Fields whose values are all plain. -/
def PlainFields : List (String × Value) → Prop
  | [] => True
  | field :: rest => Plain field.2 ∧ PlainFields rest

end

theorem plainItems_iff : ∀ {items : List Value}, PlainItems items ↔ ∀ v ∈ items, Plain v
  | [] => by simp [PlainItems]
  | v :: rest => by rw [PlainItems, List.forall_mem_cons, plainItems_iff]

theorem plainFields_iff : ∀ {fields : List (String × Value)},
    PlainFields fields ↔ ∀ v ∈ fields.map Prod.snd, Plain v
  | [] => by simp [PlainFields]
  | field :: rest => by rw [PlainFields, List.map_cons, List.forall_mem_cons, plainFields_iff]

/-! ### Documents -/

theorem putField_append {name : String} (v : Value) : ∀ {fields : Document},
    name ∉ fields.map Prod.fst → putField name v fields = fields ++ [(name, v)]
  | [], _ => rfl
  | field :: rest, h => by
    rw [List.map_cons, List.mem_cons, not_or] at h
    rw [putField, if_neg (Ne.symm h.1), putField_append v h.2]
    rfl

theorem foldl_putField : ∀ (fields before : Document), ((before ++ fields).map Prod.fst).Nodup →
    fields.foldl (fun d field => putField field.1 field.2 d) before = before ++ fields
  | [], before, _ => by rw [List.foldl_nil, List.append_nil]
  | field :: rest, before, h => by
    have hfresh : field.1 ∉ before.map Prod.fst := by
      rw [List.map_append, List.map_cons, List.nodup_append] at h
      intro hmem
      exact h.2.2 _ hmem _ List.mem_cons_self rfl
    have hrest : ((before ++ [field] ++ rest).map Prod.fst).Nodup := by
      rwa [List.append_assoc, List.singleton_append]
    rw [List.foldl_cons, putField_append field.2 hfresh, foldl_putField rest _ hrest,
      List.append_assoc, List.singleton_append]

/-- Fields of distinct names are a document as they stand. -/
theorem documentOf_nodup {fields : Document} (h : (fields.map Prod.fst).Nodup) :
    documentOf fields = .document fields := by
  rw [documentOf, foldl_putField fields [] h, List.nil_append]

/-! ### What is read -/

theorem mem_putField {name : String} {v : Value} {fields : Document} {field : String × Value}
    (h : field ∈ putField name v fields) : field = (name, v) ∨ field ∈ fields := by
  induction fields with
  | nil => exact Or.inl (List.mem_singleton.mp h)
  | cons other rest ih =>
    unfold putField at h
    split at h
    · exact (List.mem_cons.mp h).imp_right (List.mem_cons_of_mem _)
    · rcases List.mem_cons.mp h with rfl | hrest
      · exact Or.inr List.mem_cons_self
      · exact (ih hrest).imp_right (List.mem_cons_of_mem _)

theorem putField_names (name : String) (v : Value) : ∀ {fields : Document},
    (fields.map Prod.fst).Nodup → ((putField name v fields).map Prod.fst).Nodup
  | [], _ => by simp [putField]
  | field :: rest, h => by
    rw [List.map_cons, List.nodup_cons] at h
    obtain ⟨hfresh, hrest⟩ := h
    unfold putField
    split
    · next hname =>
      subst hname
      exact List.nodup_cons.mpr ⟨hfresh, hrest⟩
    · next hname =>
      refine List.nodup_cons.mpr ⟨fun hmem => ?_, putField_names name v hrest⟩
      obtain ⟨other, hother, hsame⟩ := List.mem_map.mp hmem
      rcases mem_putField hother with rfl | hother
      · exact hname hsame.symm
      · exact hfresh (List.mem_map.mpr ⟨other, hother, hsame⟩)

/-- What stands in a document was read as one of its fields, and each name stands once. -/
theorem documentOf_eq (fields : List (String × Value)) : ∃ kept : Document,
    documentOf fields = .document kept ∧ (kept.map Prod.fst).Nodup ∧
      ∀ field ∈ kept, field ∈ fields := by
  have hfold : ∀ (fields : List (String × Value)) (before : Document), (before.map Prod.fst).Nodup →
      ((fields.foldl (fun d field => putField field.1 field.2 d) before).map Prod.fst).Nodup ∧
        ∀ field ∈ fields.foldl (fun d field => putField field.1 field.2 d) before,
          field ∈ before ∨ field ∈ fields := by
    intro fields
    induction fields with
    | nil => exact fun before hnames => ⟨hnames, fun field hfield => Or.inl hfield⟩
    | cons next rest ih =>
      intro before hnames
      obtain ⟨hnodup, hmem⟩ := ih _ (putField_names next.1 next.2 hnames)
      refine ⟨hnodup, fun field hfield => ?_⟩
      rcases hmem field hfield with hput | hrest
      · rcases mem_putField hput with rfl | hbefore
        · exact Or.inr List.mem_cons_self
        · exact Or.inl hbefore
      · exact Or.inr (List.mem_cons_of_mem _ hrest)
  obtain ⟨hnodup, hmem⟩ := hfold fields [] List.nodup_nil
  exact ⟨_, rfl, hnodup, fun field hfield => (hmem field hfield).resolve_left List.not_mem_nil⟩

/-- Plain fields make a plain document, names that are repeated among them or not. -/
theorem documentOf_plain {fields : List (String × Value)} (h : PlainFields fields) :
    Plain (documentOf fields) := by
  obtain ⟨kept, hkept, hnames, hmem⟩ := documentOf_eq fields
  rw [plainFields_iff, List.forall_mem_map] at h
  rw [hkept, Plain, plainFields_iff, List.forall_mem_map]
  exact ⟨hnames, fun field hfield => h field (hmem field hfield)⟩

theorem scanMagnitude_plain {negative : Bool} {s rest : List Char} {v : Value}
    (h : scanMagnitude negative s = some (v, rest)) : Plain v := by
  unfold scanMagnitude at h
  obtain ⟨⟨whole, tail⟩, -, h⟩ := Option.bind_eq_some_iff.mp h
  simp only at h
  split at h <;> obtain ⟨rfl, -⟩ := Prod.mk.inj (Option.some.inj h) <;> trivial

theorem readPlain_plain {s rest : List Char} {v : Value}
    (h : (readWord s).or (scanNumber s) = some (v, rest)) : Plain v := by
  rcases Option.or_eq_some_iff.mp h with hword | ⟨-, hnumber⟩
  · obtain ⟨⟨word, w⟩, hmem, hw⟩ := List.exists_of_findSome?_eq_some hword
    obtain ⟨_, -, hpair⟩ := Option.map_eq_some_iff.mp hw
    obtain ⟨rfl, -⟩ := Prod.mk.inj hpair
    simp only [words, List.mem_cons, Prod.mk.injEq, List.not_mem_nil, or_false] at hmem
    rcases hmem with ⟨-, rfl⟩ | ⟨-, rfl⟩ | ⟨-, rfl⟩ | ⟨-, rfl⟩ | ⟨-, rfl⟩ | ⟨-, rfl⟩ <;> trivial
  · unfold scanNumber at hnumber
    split at hnumber <;> exact scanMagnitude_plain hnumber

section

variable {bound : Nat}

theorem readValue_plain
    (hitems : ∀ {s rest items}, readItems bound s = some (items, rest) → PlainItems items)
    (hfields : ∀ {s rest fields}, readFields bound s = some (fields, rest) → PlainFields fields)
    {s rest : List Char} {v : Value} (h : readValue (bound + 1) s = some (v, rest)) : Plain v := by
  unfold readValue at h
  split at h
  · obtain ⟨_, -, hp⟩ := Option.map_eq_some_iff.mp h
    obtain ⟨rfl, -⟩ := Prod.mk.inj hp
    trivial
  · split at h
    · obtain ⟨rfl, -⟩ := Prod.mk.inj (Option.some.inj h)
      trivial
    · obtain ⟨⟨items, tail⟩, hread, hp⟩ := Option.map_eq_some_iff.mp h
      obtain ⟨rfl, -⟩ := Prod.mk.inj hp
      unfold Plain
      exact hitems hread
  · split at h
    · obtain ⟨rfl, -⟩ := Prod.mk.inj (Option.some.inj h)
      unfold Plain
      exact ⟨List.nodup_nil, trivial⟩
    · obtain ⟨⟨fields, tail⟩, hread, hp⟩ := Option.map_eq_some_iff.mp h
      obtain ⟨rfl, -⟩ := Prod.mk.inj hp
      exact documentOf_plain (hfields hread)
  · exact readPlain_plain h

theorem readItems_plain
    (hvalue : ∀ {s rest v}, readValue bound s = some (v, rest) → Plain v)
    (hitems : ∀ {s rest items}, readItems bound s = some (items, rest) → PlainItems items)
    {s rest : List Char} {items : List Value}
    (h : readItems (bound + 1) s = some (items, rest)) : PlainItems items := by
  unfold readItems at h
  obtain ⟨⟨v, tail⟩, hv, h⟩ := Option.bind_eq_some_iff.mp h
  simp only at h
  split at h
  · obtain ⟨⟨others, _⟩, hothers, h⟩ := Option.bind_eq_some_iff.mp h
    obtain ⟨rfl, -⟩ := Prod.mk.inj (Option.some.inj h)
    exact ⟨hvalue hv, hitems hothers⟩
  · obtain ⟨rfl, -⟩ := Prod.mk.inj (Option.some.inj h)
    exact ⟨hvalue hv, trivial⟩
  · cases h

theorem readFields_plain
    (hvalue : ∀ {s rest v}, readValue bound s = some (v, rest) → Plain v)
    (hfields : ∀ {s rest fields}, readFields bound s = some (fields, rest) → PlainFields fields)
    {s rest : List Char} {fields : List (String × Value)}
    (h : readFields (bound + 1) s = some (fields, rest)) : PlainFields fields := by
  unfold readFields at h
  split at h
  · obtain ⟨⟨name, tail⟩, -, h⟩ := Option.bind_eq_some_iff.mp h
    simp only at h
    split at h
    · obtain ⟨⟨v, after⟩, hv, h⟩ := Option.bind_eq_some_iff.mp h
      simp only at h
      split at h
      · obtain ⟨⟨others, _⟩, hothers, h⟩ := Option.bind_eq_some_iff.mp h
        obtain ⟨rfl, -⟩ := Prod.mk.inj (Option.some.inj h)
        exact ⟨hvalue hv, hfields hothers⟩
      · obtain ⟨rfl, -⟩ := Prod.mk.inj (Option.some.inj h)
        exact ⟨hvalue hv, trivial⟩
      · cases h
    · cases h
  · cases h

end

/-- Whatever the bound of the readers is, what they give is plain. -/
theorem read_plain (bound : Nat) :
    (∀ {s rest v}, readValue bound s = some (v, rest) → Plain v) ∧
    (∀ {s rest items}, readItems bound s = some (items, rest) → PlainItems items) ∧
    (∀ {s rest fields}, readFields bound s = some (fields, rest) → PlainFields fields) := by
  induction bound with
  | zero =>
    refine ⟨fun h => ?_, fun h => ?_, fun h => ?_⟩
    · rw [readValue] at h
      cases h
    · rw [readItems] at h
      cases h
    · rw [readFields] at h
      cases h
  | succ bound ih =>
    obtain ⟨hvalue, hitems, hfields⟩ := ih
    exact ⟨readValue_plain hitems hfields, readItems_plain hvalue hitems,
      readFields_plain hvalue hfields⟩

/-- **The reader gives plain values only.** -/
theorem parse?_plain {text : String} {v : Value} (h : parse? text = some v) : Plain v := by
  unfold parse? at h
  simp only at h
  split at h
  · next w rest hread =>
    split at h
    · obtain rfl := Option.some.inj h
      exact (read_plain _).1 hread
    · cases h
  · cases h

/-! ### What is written -/

mutual

theorem renderAt_plain (layout : Layout) : ∀ (v : Value) (depth : Nat), Plain v →
    ∃ text, renderAt layout depth v = some text
  | .null, _, _ | .bool _, _, _ | .int _, _, _ | .float _, _, _ | .text _, _, _ => by
    unfold renderAt
    exact ⟨_, rfl⟩
  | .list items, depth, h => by
    unfold Plain at h
    obtain ⟨texts, htexts⟩ := renderItems_plain layout items (depth + 1) h
    rw [renderAt, htexts]
    exact ⟨_, rfl⟩
  | .document fields, depth, h => by
    unfold Plain at h
    obtain ⟨texts, htexts⟩ := renderFields_plain layout fields (depth + 1) h.2
    rw [renderAt, htexts]
    exact ⟨_, rfl⟩
  | .tuple _, _, h | .metric _, _, h | .point _, _, h | .box _, _, h | .distance _, _, h
  | .circle _, _, h | .sphere _, _, h | .polygon _, _, h | .geoJson _, _, h
  | .geoCommand _ _, _, h | .foreign _ _, _, h => by
    unfold Plain at h
    exact h.elim

theorem renderItems_plain (layout : Layout) : ∀ (items : List Value) (depth : Nat),
    PlainItems items → ∃ texts, renderItems layout depth items = some texts
  | [], _, _ => by
    unfold renderItems
    exact ⟨_, rfl⟩
  | v :: rest, depth, h => by
    unfold PlainItems at h
    obtain ⟨text, htext⟩ := renderAt_plain layout v depth h.1
    obtain ⟨texts, htexts⟩ := renderItems_plain layout rest depth h.2
    rw [renderItems, htext, htexts]
    exact ⟨_, rfl⟩

theorem renderFields_plain (layout : Layout) : ∀ (fields : List (String × Value)) (depth : Nat),
    PlainFields fields → ∃ texts, renderFields layout depth fields = some texts
  | [], _, _ => by
    unfold renderFields
    exact ⟨_, rfl⟩
  | (name, v) :: rest, depth, h => by
    unfold PlainFields at h
    obtain ⟨text, htext⟩ := renderAt_plain layout v depth h.1
    obtain ⟨texts, htexts⟩ := renderFields_plain layout rest depth h.2
    rw [renderFields, htext, htexts]
    exact ⟨_, rfl⟩

end

/-- **Every plain value can be written.** -/
theorem render_plain (layout : Layout) {v : Value} (h : Plain v) :
    ∃ text, render? layout v = some text := renderAt_plain layout v 0 h

end Json
end ShapeCodec
