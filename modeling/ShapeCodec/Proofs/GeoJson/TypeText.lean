/-
# The type of a GeoJSON document

The type of a GeoJSON document goes by the text that its field `type` shows, so that any value
could stand there. Both types that are read begin with the same capital letter, and no value but
a text shows a text that begins with it (`Value.eq_text_of_display`): a number begins with a digit
or a sign, a list or a document with a bracket, a shape with the name of its first attribute. So a
document is read as a point or a polygon only where its type is that very text, and there the
readers of legacy documents agree with the reader of GeoJSON on what a document is.

Key definitions: `OfType`, `Begins`.
Key theorems: `Value.eq_text_of_display`, `hasType_iff`, `Geometry.decode_eq_ok`.
-/
import ShapeCodec.GeoJson.Reader
import ShapeCodec.Proofs.Json.Numbers
import ShapeCodec.Proofs.Shape.Reading

namespace ShapeCodec

/-- A document whose type is the given text. -/
def OfType (fields : Document) (type : String) : Prop := fields.lookup "type" = some (.text type)

/-! ### First characters of what is shown -/

/-- A text that begins with a character. -/
def Begins (c : Char) (s : String) : Prop := s.toList.head? = some c

theorem begins_append {c : Char} {s : String} (h : Begins c s) (t : String) : Begins c (s ++ t) := by
  unfold Begins at h ⊢
  rw [String.toList_append, List.head?_append, h, Option.some_or]

/-- Texts that begin differently are different. -/
theorem Begins.unique {c d : Char} {s : String} (hc : Begins c s) (hd : Begins d s) : c = d :=
  Option.some.inj (hc.symm.trans hd)

/-- Attributes begin with the name of the first. -/
theorem Attributes.begins {c : Char} {name shown : String} {rest : Attributes} (separator : String)
    (h : Begins c name) : Begins c (Attributes.write separator ((name, shown) :: rest)) := by
  have hfirst : Begins c (name ++ "=" ++ shown) := begins_append (begins_append h _) _
  unfold Attributes.write
  cases rest with
  | nil => exact hfirst
  | cons other rest =>
    rw [List.map_cons, List.map_cons, joined]
    · exact begins_append (begins_append hfirst _) _
    · rintro ⟨⟩

theorem begins_int (n : Int) : ∃ c, Begins c (toString n) ∧ Json.Opens c := by
  have hend : Json.Ends [] := nofun
  have hread := Json.readPlain_int n hend
  rw [List.append_nil] at hread
  obtain ⟨c, s, htext, hc⟩ := Json.head_of_readPlain hread
  exact ⟨c, by rw [Begins, htext, List.head?_cons], hc⟩

/-- What is shown of a whole number are its digits. -/
theorem intLiteral_eq_ok {n : Int} {s : String} (h : intLiteral n = .ok s) : toString n = s := by
  unfold intLiteral at h
  split at h
  · exact Except.ok.inj h
  · cases h

/-- A double begins as it does in JSON text, but for an infinite one. -/
theorem begins_float (x : Float) :
    ∃ c, Begins c (Spelling.plain.write x) ∧ (c = 'i' ∨ Json.Opens c) := by
  cases hparts : Parts.ofFloat x with
  | nan =>
    have htext : Spelling.plain.write x = "nan" := by
      rw [Spelling.write, hparts]
      rfl
    rw [htext]
    exact ⟨'n', rfl, Or.inr (by simp [Json.Opens])⟩
  | infinite negative =>
    have htext : Spelling.plain.write x = if negative then "-inf" else "inf" := by
      rw [Spelling.write, hparts]
      rfl
    rw [htext]
    cases negative
    · exact ⟨'i', rfl, Or.inl rfl⟩
    · exact ⟨'-', rfl, Or.inr (by simp [Json.Opens])⟩
  | finite b =>
    have htext : Spelling.plain.write x = Json.spelling.write x := by
      rw [Spelling.write, Spelling.write, hparts]
    have hend : Json.Ends [] := nofun
    have hread := Json.readPlain_float x hend
    rw [List.append_nil, ← htext] at hread
    obtain ⟨c, s, hs, hc⟩ := Json.head_of_readPlain hread
    exact ⟨c, by rw [Begins, hs, List.head?_cons], Or.inr hc⟩

/-! ### Types -/

/-- **No value but a text shows a text with the initial of the types that are read.** -/
theorem Value.eq_text_of_display {v : Value} {s : String} (h : v.display = .ok s)
    (hs : Begins 'P' s) : v = .text s := by
  -- what is shown begins with a character that is no `P`
  have hother : ∀ c, Begins c s → c ≠ 'P' → v = .text s := by
    intro c hc hne
    exact absurd (hc.unique hs) hne
  cases v with
  | text t => exact congrArg Value.text (Except.ok.inj h)
  | null =>
    obtain rfl := Except.ok.inj h
    exact hother 'N' rfl (by decide)
  | bool b =>
    obtain rfl := Except.ok.inj h
    cases b
    · exact hother 'F' rfl (by decide)
    · exact hother 'T' rfl (by decide)
  | int n =>
    obtain rfl := intLiteral_eq_ok h
    obtain ⟨c, hc, hopens⟩ := begins_int n
    refine hother c hc ?_
    rintro rfl
    simp [Json.Opens] at hopens
  | float x =>
    obtain rfl := Except.ok.inj h
    obtain ⟨c, hc, hopens⟩ := begins_float x
    refine hother c hc ?_
    rintro rfl
    simp [Json.Opens] at hopens
  | list items =>
    obtain ⟨shown, -, hshown⟩ := bind_eq_ok.mp h
    obtain rfl := Except.ok.inj hshown
    exact hother '[' (begins_append (begins_append (by rfl) _) _) (by decide)
  | tuple items =>
    obtain ⟨shown, -, hshown⟩ := bind_eq_ok.mp h
    obtain rfl := Except.ok.inj hshown
    refine hother '(' ?_ (by decide)
    unfold tupleLiteral
    split <;> exact begins_append (begins_append (by rfl) _) _
  | document fields =>
    obtain ⟨shown, -, hshown⟩ := bind_eq_ok.mp h
    obtain rfl := Except.ok.inj hshown
    exact hother '\x7b' (begins_append (begins_append (by rfl) _) _) (by decide)
  | metric m =>
    obtain rfl := Except.ok.inj h
    exact hother 'M' (begins_append (by rfl) _) (by decide)
  | point p =>
    obtain rfl := Except.ok.inj h
    exact hother 'x' (Attributes.begins _ rfl) (by decide)
  | box b =>
    obtain rfl := Except.ok.inj h
    exact hother 'f' (Attributes.begins _ rfl) (by decide)
  | distance d =>
    obtain rfl := Except.ok.inj h
    exact hother 'v' (Attributes.begins _ rfl) (by decide)
  | circle c =>
    obtain rfl := Except.ok.inj h
    exact hother 'c' (Attributes.begins _ rfl) (by decide)
  | sphere t =>
    obtain rfl := Except.ok.inj h
    exact hother 'c' (Attributes.begins _ rfl) (by decide)
  | polygon q =>
    obtain rfl := Except.ok.inj h
    exact hother 'p' (Attributes.begins _ rfl) (by decide)
  | geoJson geometry =>
    obtain ⟨type, -, htype⟩ := bind_eq_ok.mp h
    obtain ⟨shown, -, hshown⟩ := bind_eq_ok.mp htype
    obtain rfl := Except.ok.inj hshown
    exact hother 'g' (Attributes.begins _ rfl) (by decide)
  | geoCommand command shape =>
    obtain ⟨shown, -, hshown⟩ := bind_eq_ok.mp h
    obtain rfl := Except.ok.inj hshown
    exact hother 'c' (Attributes.begins _ rfl) (by decide)
  | «foreign» className attributes =>
    obtain rfl := Except.ok.inj h
    exact hother '<' (begins_append (begins_append (by rfl) _) _) (by decide)

theorem begins_point : Begins 'P' "Point" := rfl

theorem begins_polygon : Begins 'P' "Polygon" := rfl

theorem Value.display_eq_ok_iff {v : Value} {type : String} (htype : Begins 'P' type) :
    v.display = .ok type ↔ v = .text type := by
  constructor
  · intro h
    exact Value.eq_text_of_display h htype
  · rintro rfl
    rfl

/-- The readers of legacy documents, which compare the type itself, agree on the documents of a
type with the reader of GeoJSON, which compares its text. -/
theorem hasType_iff {fields : Document} {type : String} (htype : Begins 'P' type) :
    hasType fields type = true ↔ OfType fields type := by
  unfold hasType OfType
  cases fields.lookup "type" with
  | none => simp
  | some v =>
    have hmetric : ∀ m : Metric, m.name ≠ type := by
      rintro m rfl
      cases m <;> exact absurd (htype.unique rfl) (by decide)
    cases v <;> simp [Value.isText, Value.text?, hmetric]

variable {fields : Document} {g : Geometry}

theorem Geometry.ofType_eq_ok {type : String} : Geometry.ofType type fields = .ok g ↔
    (type = "Point" ∧ ∃ p, Point.ofGeoJson fields = .ok p ∧ g = .point p) ∨
      (type = "Polygon" ∧ ∃ q, Polygon.ofGeoJson fields = .ok q ∧ g = .polygon q) := by
  unfold Geometry.ofType
  by_cases hpoint : type = "Point"
  · rw [if_pos hpoint, map_eq_ok]
    simp [hpoint, eq_comm]
  · rw [if_neg hpoint]
    by_cases hpolygon : type = "Polygon"
    · rw [if_pos hpolygon, map_eq_ok]
      simp [hpolygon, eq_comm]
    · rw [if_neg hpolygon]
      simp [hpoint, hpolygon]

/-- **A GeoJSON document is read as the geometry of its type**, and its type is a text. -/
theorem Geometry.decode_eq_ok : Geometry.decode (.document fields) = .ok (some g) ↔
    (OfType fields "Point" ∧ ∃ p, Point.ofGeoJson fields = .ok p ∧ g = .point p) ∨
      (OfType fields "Polygon" ∧ ∃ q, Polygon.ofGeoJson fields = .ok q ∧ g = .polygon q) := by
  have hdisplayed : Geometry.decode (.document fields) = .ok (some g) ↔
      ∃ v type, fields.lookup "type" = some v ∧ v.display = .ok type ∧
        Geometry.ofType type fields = .ok g := by
    unfold Geometry.decode Geometry.ofFields
    rw [map_eq_ok]
    cases fields.lookup "type" with
    | none => simp
    | some v => cases hv : v.display <;> simp [hv, bind, Except.bind]
  rw [hdisplayed]
  simp only [Geometry.ofType_eq_ok]
  constructor
  · rintro ⟨v, type, hv, hdisplay, ⟨rfl, hread⟩ | ⟨rfl, hread⟩⟩
    · obtain rfl := (Value.display_eq_ok_iff begins_point).mp hdisplay
      exact Or.inl ⟨hv, hread⟩
    · obtain rfl := (Value.display_eq_ok_iff begins_polygon).mp hdisplay
      exact Or.inr ⟨hv, hread⟩
  · rintro (⟨htype, hread⟩ | ⟨htype, hread⟩)
    · exact ⟨_, "Point", htype, rfl, Or.inl ⟨rfl, hread⟩⟩
    · exact ⟨_, "Polygon", htype, rfl, Or.inr ⟨rfl, hread⟩⟩

end ShapeCodec
