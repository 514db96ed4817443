/-
# How strictly a command is written

Two functions look at the shape of a command: one finds the operator that searches within it, and
one makes arguments of it. Neither asks the other, and a value of any kind can stand for the shape.
They recognise the same values (`Value.arguments?_isSome_eq`), and these are the boxes, circles,
spheres and polygons, of which a valid one always makes arguments (`Value.Searchable.arguments`).

So how strictly a command is written matters only for the other values. On these the strict writer
fails, and the lenient one writes no arguments and gives one notice of it, so that a command without
arguments is never that of a shape (`encode_strictness`). What is asked for where a command is
written comes before the settings.

Key definitions: `Value.Searchable`, `Value.IsSearched`.
Key theorems: `Value.operator?_isSome`, `Value.arguments?_isSome_eq`, `Value.isSearched_iff`,
`GeoCommand.encode_searchable`, `GeoCommand.encode_other`, `encode_strictness`.
-/
import ShapeCodec.Proofs.Shape.Production
import ShapeCodec.Settings

namespace ShapeCodec

variable {v : Value}

/-! ### What is searched within -/

/-- The kinds of shapes that are searched within. -/
def ShapeKind.searched : List ShapeKind := [.box, .circle, .sphere, .polygon]

/-- An admitted shape of one of these kinds. -/
def Value.Searchable (v : Value) : Prop := ∃ kind ∈ ShapeKind.searched, kind.Admits v

/-- A shape of one of these kinds, admitted or not. -/
inductive Value.IsSearched : Value → Prop
  | box (b : Box) : IsSearched (.box b)
  | circle (c : Circle) : IsSearched (.circle c)
  | sphere (s : Sphere) : IsSearched (.sphere s)
  | polygon (q : Polygon) : IsSearched (.polygon q)

/-- Of the valid values the shapes of these kinds are those that are admitted. -/
theorem Value.isSearched_iff (hv : v.Valid) : v.IsSearched ↔ v.Searchable := by
  constructor
  · intro h
    cases h with
    | box b => exact ⟨.box, by simp [ShapeKind.searched], .box b⟩
    | circle c => exact ⟨.circle, by simp [ShapeKind.searched], .circle hv⟩
    | sphere s => exact ⟨.sphere, by simp [ShapeKind.searched], .sphere hv⟩
    | polygon q => exact ⟨.polygon, by simp [ShapeKind.searched], .polygon hv⟩
  · rintro ⟨kind, hkind, hadmits⟩
    cases hadmits with
    | point p => simp [ShapeKind.searched] at hkind
    | box b => exact .box b
    | circle => exact .circle _
    | sphere => exact .sphere _
    | polygon => exact .polygon _

/-- An operator is known for the shapes of these kinds and no other value. -/
theorem Value.operator?_isSome : v.operator?.isSome ↔ v.IsSearched := by
  constructor
  · intro h
    cases v with
    | box b => exact .box b
    | circle c => exact .circle c
    | sphere s => exact .sphere s
    | polygon q => exact .polygon q
    | _ => cases h
  · intro h
    cases h <;> rfl

/-- Arguments are made of the very values for which an operator is known. -/
theorem Value.arguments?_isSome_eq (v : Value) : v.arguments?.isSome = v.operator?.isSome := by
  cases v <;> rfl

theorem Value.arguments?_isSome : v.arguments?.isSome ↔ v.IsSearched := by
  rw [Value.arguments?_isSome_eq]
  exact Value.operator?_isSome

theorem Value.Searchable.arguments (h : v.Searchable) :
    ∃ arguments, v.arguments? = some arguments ∧ arguments ≠ [] := by
  obtain ⟨kind, hkind, hadmits⟩ := h
  have hpoint : kind ≠ .point := by
    rintro rfl
    simp [ShapeKind.searched] at hkind
  exact hadmits.arguments hpoint

theorem Value.arguments?_eq_none (hv : v.Valid) (h : ¬ v.Searchable) : v.arguments? = none := by
  rw [← Option.not_isSome_iff_eq_none, Value.arguments?_isSome, Value.isSearched_iff hv]
  exact h

theorem GeoCommand.forShape_ok_iff (hv : v.Valid) :
    (∃ c, GeoCommand.forShape v = .ok c) ↔ v.Searchable := by
  rw [← Value.isSearched_iff hv, ← Value.operator?_isSome]
  unfold GeoCommand.forShape
  cases v.operator? <;> simp

/-! ### What is written -/

variable {name : String}

/-- A shape is written with its arguments by either writer, and nothing is noticed. -/
theorem GeoCommand.encode_searchable (name : String) (h : v.Searchable) :
    ∃ arguments, arguments ≠ [] ∧
      ∀ strict, GeoCommand.encode strict ⟨name, v⟩ = .ok ([(name, .list arguments)], []) := by
  obtain ⟨arguments, harguments, hne⟩ := h.arguments
  refine ⟨arguments, hne, fun strict => ?_⟩
  unfold GeoCommand.encode
  rw [harguments]

/-- Any other value is refused by the strict writer, and written without arguments and with a notice
by the lenient one. -/
theorem GeoCommand.encode_other (hv : v.Valid) (h : ¬ v.Searchable) (strict : Bool) :
    GeoCommand.encode strict ⟨name, v⟩ =
      if strict then .error (.unusableArgument (.noArguments v.typeName name))
      else .ok ([(name, .list [])], [noArgumentsNotice name v.typeName]) := by
  unfold GeoCommand.encode
  rw [Value.arguments?_eq_none hv h]

theorem GeoCommand.encode_strict_iff (hv : v.Valid) :
    (∃ r, GeoCommand.encode true ⟨name, v⟩ = .ok r) ↔ v.Searchable := by
  constructor
  · rintro ⟨r, hr⟩
    by_contra hother
    rw [GeoCommand.encode_other hv hother] at hr
    cases hr
  · intro h
    obtain ⟨arguments, -, hwritten⟩ := GeoCommand.encode_searchable name h
    exact ⟨_, hwritten true⟩

/-- A command without arguments is a lenient one of a value that is not searched within. -/
theorem GeoCommand.encode_empty (hv : v.Valid) {strict : Bool} {notices : List Notice}
    (h : GeoCommand.encode strict ⟨name, v⟩ = .ok ([(name, .list [])], notices)) :
    strict = false ∧ ¬ v.Searchable := by
  by_cases hshape : v.Searchable
  · obtain ⟨arguments, hne, hwritten⟩ := GeoCommand.encode_searchable name hshape
    have hempty : arguments = [] ∧ [] = notices := by simpa [hwritten strict] using h
    exact absurd hempty.1 hne
  · rw [GeoCommand.encode_other hv hshape] at h
    cases strict with
    | true => cases h
    | false => exact ⟨rfl, hshape⟩

/-- **How strictly a command is written matters only for what is no shape.** A command is made of
any valid value and any name. An operator is found for the value, and the strict writer succeeds,
exactly if it is an admitted box, circle, sphere or polygon. Then it is written with the same
arguments, of which there is one at least, and without a notice, whatever is asked for and set.
Otherwise the strict writer fails and the lenient one writes no arguments, which is written in no
other case, and gives one warning. What is asked for decides which writer it is, and the settings do
where nothing is asked for. -/
theorem encode_strictness (hv : v.Valid) (hname : name ≠ "") :
    ∃ c, GeoCommand.ofParts (.text name) v = .accepted c ∧
      ((∃ d, GeoCommand.forShape v = .ok d) ↔ v.Searchable) ∧
      ((∃ r, c.encode true = .ok r) ↔ v.Searchable) ∧
      (v.Searchable → ∃ arguments, arguments ≠ [] ∧ ∀ (settings : Settings) (asked : Option Bool),
        c.encode (settings.strictness asked) = .ok ([(name, .list arguments)], [])) ∧
      (¬ v.Searchable → ∀ (settings : Settings) (asked : Option Bool),
        (settings.strictness asked = true →
          ∃ cause, c.encode (settings.strictness asked) = .error (.unusableArgument cause)) ∧
        (settings.strictness asked = false → ∃ n : Notice, n.level = .warning ∧
          c.encode (settings.strictness asked) = .ok ([(name, .list [])], [n]))) ∧
      (∀ strict notices, c.encode strict = .ok ([(name, .list [])], notices) →
        strict = false ∧ ¬ v.Searchable) ∧
      ∀ settings : Settings, settings.strictness none = settings.strictCommands ∧
        ∀ asked, c.encode (settings.strictness (some asked)) = c.encode asked := by
  refine ⟨⟨name, v⟩, GeoCommand.ofParts_text hname v, GeoCommand.forShape_ok_iff hv,
    GeoCommand.encode_strict_iff hv, fun h => ?_, fun h settings asked => ⟨fun hstrict => ?_,
      fun hlenient => ?_⟩, fun strict notices => GeoCommand.encode_empty hv,
    fun settings => ⟨rfl, fun asked => rfl⟩⟩
  · obtain ⟨arguments, hne, hwritten⟩ := GeoCommand.encode_searchable name h
    exact ⟨arguments, hne, fun settings asked => hwritten _⟩
  · rw [hstrict, GeoCommand.encode_other hv h]
    exact ⟨_, rfl⟩
  · rw [hlenient, GeoCommand.encode_other hv h]
    exact ⟨_, rfl, rfl⟩

/-- A polygon of one point is written with one argument, asked for strictly under lenient settings,
and a point is written with none. -/
theorem encode_strictness_pair :
    let shape : Value := .polygon ⟨[⟨1.0, -0.0⟩]⟩
    let other : Value := .point ⟨1.0, -0.0⟩
    let settings : Settings := { strictCommands := false }
    shape.Valid ∧ other.Valid ∧ "$near" ≠ "" ∧ shape.Searchable ∧ ¬ other.Searchable ∧
      GeoCommand.ofParts (.text "$near") shape = .accepted ⟨"$near", shape⟩ ∧
      (∃ arguments, arguments ≠ [] ∧ GeoCommand.encode (settings.strictness (some true))
        ⟨"$near", shape⟩ = .ok ([("$near", .list arguments)], [])) ∧
      ∃ n, GeoCommand.encode (settings.strictness none) ⟨"$near", other⟩ =
        .ok ([("$near", .list [])], [n]) := by
  intro shape other settings
  have hshape : shape.Valid := List.cons_ne_nil _ _
  have hother : other.Valid := trivial
  have hname : "$near" ≠ "" := by decide
  obtain ⟨c, hc, hoperator, -, hwritten, -⟩ := encode_strictness hshape hname
  obtain ⟨d, hd, hunknown, -, -, hrefused, -⟩ := encode_strictness hother hname
  have hparts : GeoCommand.ofParts (.text "$near") shape = .accepted ⟨"$near", shape⟩ := rfl
  obtain rfl := Verdict.accepted.inj (hparts.symm.trans hc)
  have hd' : GeoCommand.ofParts (.text "$near") other = .accepted ⟨"$near", other⟩ := rfl
  obtain rfl := Verdict.accepted.inj (hd'.symm.trans hd)
  have hsearched : shape.Searchable := hoperator.mp ⟨_, rfl⟩
  have hpoint : ¬ other.Searchable := by
    intro h
    obtain ⟨_, hnone⟩ := hunknown.mpr h
    cases hnone
  obtain ⟨arguments, hne, hencode⟩ := hwritten hsearched
  obtain ⟨n, -, hn⟩ := (hrefused hpoint settings none).2 rfl
  exact ⟨hshape, hother, hname, hsearched, hpoint, hparts, ⟨arguments, hne, hencode _ _⟩, n, hn⟩

end ShapeCodec
