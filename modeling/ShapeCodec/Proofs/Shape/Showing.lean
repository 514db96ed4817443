/-
# Values that can be shown

A message that shows a value needs the value to be shown, and that can fail. A whole number is not
shown if it has too many digits, and a wrapper is shown with the GeoJSON type of what it holds,
which may have none. Then the message is not made, and its place is taken by the fault of what could
not be shown.

A value is shown in order: itself before its parts, the type of a wrapper before what it holds, and
the parts from the first to the last. So a value can be shown exactly if nothing in it, at any
depth, is obstructed, and otherwise it fails with the fault of what is obstructed and reached first
(`Value.StopsAt`). Nothing else ever goes wrong.

Key definitions: `Value.Obstructed`, `Value.Showable`, `Value.StopsAt`, `Shows`.
Key theorems: `Shows.bind`, `Value.literal_shows`, `Value.display_shows`.
-/
import ShapeCodec.Proofs.Shape.Failure
import ShapeCodec.Proofs.Value.Parts

namespace ShapeCodec

variable {α β : Type}

/-! ### Obstructed values -/

/-- A value that cannot be shown, whatever its parts are, and the fault of it. -/
inductive Value.Obstructed : Value → Fault → Prop
  | digits {n : Int} (h : digitLimit < digitCount n.natAbs) : Obstructed (.int n) .tooManyDigits
  | untyped {geometry : Value} {e : Fault} (h : geometry.geoJsonType = .error e) :
    Obstructed (.geoJson geometry) e

/-- A value that is not obstructed, and neither is anything in it. -/
def Value.Showable (v : Value) : Prop := v.Throughout fun u => ∀ e, ¬ u.Obstructed e

/-- A value that is shown as far as the first thing in it that is obstructed, and the fault of
that. -/
inductive Value.StopsAt : Value → Fault → Prop
  | here {v : Value} {e : Fault} (h : v.Obstructed e) : StopsAt v e
  | inside {v part : Value} {e : Fault} {before after : List Value}
    (hfree : ∀ f, ¬ v.Obstructed f) (hparts : v.parts = before ++ part :: after)
    (hbefore : ∀ u ∈ before, u.Showable) (hpart : StopsAt part e) : StopsAt v e

variable {v : Value} {e : Fault}

theorem Value.showable_iff :
    v.Showable ↔ (∀ e, ¬ v.Obstructed e) ∧ ∀ part ∈ v.parts, part.Showable :=
  Value.throughout_iff

theorem Value.stopsAt_iff : v.StopsAt e ↔
    v.Obstructed e ∨ (∀ f, ¬ v.Obstructed f) ∧ Reaches Value.Showable (·.StopsAt e) v.parts := by
  constructor
  · rintro (h | ⟨hfree, hparts, hbefore, hpart⟩)
    · exact Or.inl h
    · exact Or.inr ⟨hfree, _, _, _, hparts, hbefore, hpart⟩
  · rintro (h | ⟨hfree, before, part, after, hparts, hbefore, hpart⟩)
    · exact .here h
    · exact .inside hfree hparts hbefore hpart

theorem Value.obstructed_int {n : Int} :
    (Value.int n).Obstructed e ↔ digitLimit < digitCount n.natAbs ∧ e = .tooManyDigits := by
  constructor
  · rintro ⟨h⟩
    exact ⟨h, rfl⟩
  · rintro ⟨h, rfl⟩
    exact .digits h

theorem Value.obstructed_geoJson {geometry : Value} :
    (Value.geoJson geometry).Obstructed e ↔ geometry.geoJsonType = .error e := by
  constructor
  · rintro ⟨⟩
    assumption
  · exact .untyped

/-- Only whole numbers and wrappers are ever obstructed. -/
theorem Value.not_obstructed (hint : ∀ n, v ≠ .int n) (hwrapper : ∀ geometry, v ≠ .geoJson geometry)
    (e : Fault) : ¬ v.Obstructed e := by
  rintro ⟨⟩
  · exact hint _ rfl
  · exact hwrapper _ rfl

theorem Value.geoJsonType_fault (h : v.geoJsonType = .error e) : e.IsUnusableArgument := by
  unfold Value.geoJsonType at h
  split at h
  · cases h
  · obtain rfl := Except.error.inj h
    trivial

/-- What cannot be shown has one of two faults. -/
theorem Value.StopsAt.fault (h : v.StopsAt e) : e = .tooManyDigits ∨ e.IsUnusableArgument := by
  induction h with
  | here h =>
    cases h with
    | digits => exact Or.inl rfl
    | untyped htype => exact Or.inr (Value.geoJsonType_fault htype)
  | inside _ _ _ _ ih => exact ih

/-- Among them is no unknown metric. -/
theorem Value.StopsAt.ne_unknownMetric (h : v.StopsAt e) (shown : String) :
    e ≠ .unknownMetric shown := by
  rintro rfl
  rcases h.fault with hdigits | hunusable
  · cases hdigits
  · exact hunusable

/-! ### Outcomes -/

/-- An outcome that is a result exactly under a condition, and otherwise a fault that is known
exactly. -/
structure Shows (r : Except Fault α) (showable : Prop) (stops : Fault → Prop) : Prop where
  ok_iff : (∃ a, r = .ok a) ↔ showable
  error_iff : ∀ e, r = .error e ↔ stops e

variable {r : Except Fault α} {g : α → Except Fault β} {p q : Prop} {P Q : Fault → Prop}

theorem Shows.ok (a : α) : Shows (.ok a) True fun _ => False := ⟨by simp, by simp⟩

theorem Shows.self (r : Except Fault α) : Shows r (∃ a, r = .ok a) fun e => r = .error e :=
  ⟨Iff.rfl, fun _ => Iff.rfl⟩

theorem Shows.congr (h : Shows r p P) (hpq : p ↔ q) (hPQ : ∀ e, P e ↔ Q e) : Shows r q Q :=
  ⟨h.ok_iff.trans hpq, fun e => (h.error_iff e).trans (hPQ e)⟩

/-- A chain stops in its first link, or in the rest where the first link gives a result. -/
theorem Shows.bind (hr : Shows r p P) (hg : ∀ a, Shows (g a) q Q) :
    Shows (r >>= g) (p ∧ q) fun e => P e ∨ p ∧ Q e := by
  cases r with
  | error f =>
    have hp : ¬ p := by simp [← hr.ok_iff]
    refine ⟨by simp [hp, Bind.bind, Except.bind], fun e => ?_⟩
    simpa [hp, Bind.bind, Except.bind] using hr.error_iff e
  | ok a =>
    have hp : p := hr.ok_iff.mp ⟨a, rfl⟩
    have hP : ∀ e, ¬ P e := by simp [← hr.error_iff]
    refine ⟨by simpa [hp, Bind.bind, Except.bind] using (hg a).ok_iff, fun e => ?_⟩
    simpa [hp, hP, Bind.bind, Except.bind] using (hg a).error_iff e

/-- What is made of shown parts adds nothing to their conditions. -/
theorem Shows.make (hr : Shows r p P) (k : α → β) : Shows (r >>= fun a => .ok (k a)) p P :=
  (hr.bind fun a => Shows.ok (k a)).congr (and_iff_left trivial) (by simp)

/-! ### All values -/

/-- A value that is not obstructed is shown as its parts are. -/
theorem Shows.ofParts (hfree : ∀ e, ¬ v.Obstructed e)
    (h : Shows r (∀ part ∈ v.parts, part.Showable) fun e =>
      Reaches Value.Showable (·.StopsAt e) v.parts) : Shows r v.Showable v.StopsAt := by
  refine h.congr ?_ fun e => ?_
  · rw [Value.showable_iff, and_iff_right hfree]
  · rw [Value.stopsAt_iff, or_iff_right (hfree e), and_iff_right hfree]

/-- A value without parts is shown if it is not obstructed. -/
theorem Shows.leaf (hparts : v.parts = []) (h : Shows r (∀ e, ¬ v.Obstructed e) v.Obstructed) :
    Shows r v.Showable v.StopsAt := by
  refine h.congr ?_ fun e => ?_
  · rw [Value.showable_iff, hparts]
    simp
  · rw [Value.stopsAt_iff, hparts]
    simp [not_reaches_nil]

theorem Shows.atom (a : α) (hparts : v.parts = []) (hfree : ∀ e, ¬ v.Obstructed e) :
    Shows (.ok a) v.Showable v.StopsAt :=
  Shows.leaf hparts ((Shows.ok a).congr (by simp [hfree]) (by simp [hfree]))

theorem intLiteral_shows (n : Int) :
    Shows (intLiteral n) (Value.int n).Showable (Value.int n).StopsAt := by
  refine Shows.leaf rfl ?_
  unfold intLiteral
  split
  · next h =>
    have hfree : ∀ e, ¬ (Value.int n).Obstructed e := by
      intro e
      rw [Value.obstructed_int]
      exact fun hdigits => Nat.not_lt.mpr h hdigits.1
    exact (Shows.ok _).congr (by simp [hfree]) (by simp [hfree])
  · next h =>
    have hdigits : ∀ e, (Value.int n).Obstructed e ↔ e = .tooManyDigits := by
      intro e
      rw [Value.obstructed_int, and_iff_right (Nat.not_le.mp h)]
    exact ⟨by simp [hdigits], by simp [hdigits, eq_comm]⟩

/-- The type of a wrapper is worked out before what it holds is shown. -/
theorem Shows.wrapper {geometry : Value} (h : Shows r geometry.Showable geometry.StopsAt)
    (k : String → α → β) :
    Shows (geometry.geoJsonType >>= fun type => r >>= fun shown => .ok (k type shown))
      (Value.geoJson geometry).Showable (Value.geoJson geometry).StopsAt := by
  have htyped : (∀ e, ¬ (Value.geoJson geometry).Obstructed e) ↔
      ∃ type, geometry.geoJsonType = .ok type := by
    simp only [Value.obstructed_geoJson]
    cases geometry.geoJsonType <;> simp
  have hchain := (Shows.self geometry.geoJsonType).bind fun type => h.make (k type)
  refine hchain.congr ?_ fun e => ?_
  · rw [@Value.showable_iff (.geoJson geometry), htyped]
    simp [Value.parts]
  · rw [@Value.stopsAt_iff (.geoJson geometry), Value.obstructed_geoJson, htyped, Value.parts,
      reaches_singleton]

mutual

/-- **A value is shown exactly if it can be**, and otherwise it fails where it stops. -/
theorem Value.literal_shows : ∀ v : Value, Shows v.literal v.Showable v.StopsAt
  | .null | .bool _ | .float _ | .text _ | .metric _ | .point _ | .box _ | .distance _
  | .circle _ | .sphere _ | .polygon _ | .foreign _ _ => by
    unfold Value.literal
    exact Shows.atom _ rfl (Value.not_obstructed (by simp) (by simp))
  | .int n => by
    unfold Value.literal
    exact intLiteral_shows n
  | .list items => by
    unfold Value.literal
    have hitems := (Value.literals_shows items).make fun shown => "[" ++ joined ", " shown ++ "]"
    exact Shows.ofParts (Value.not_obstructed (by simp) (by simp)) hitems
  | .tuple items => by
    unfold Value.literal
    have hitems := (Value.literals_shows items).make tupleLiteral
    exact Shows.ofParts (Value.not_obstructed (by simp) (by simp)) hitems
  | .document fields => by
    unfold Value.literal
    have hfields := (Value.fieldLiterals_shows fields).make fun shown =>
      "\x7b" ++ joined ", " shown ++ "\x7d"
    exact Shows.ofParts (Value.not_obstructed (by simp) (by simp)) hfields
  | .geoJson geometry => by
    unfold Value.literal
    exact (Value.literal_shows geometry).wrapper _
  | .geoCommand command shape => by
    unfold Value.literal
    have hshape := (Value.literal_shows shape).make fun shown =>
      instanceLiteral "GeoCommand" (geoCommandAttributes command shown)
    exact Shows.ofParts (Value.not_obstructed (by simp) (by simp))
      (hshape.congr (by simp [Value.parts]) (by simp [Value.parts, reaches_singleton]))

theorem Value.literals_shows : ∀ items : List Value,
    Shows (Value.literals items) (∀ v ∈ items, v.Showable) fun e =>
      Reaches Value.Showable (·.StopsAt e) items
  | [] => by
    unfold Value.literals
    exact (Shows.ok _).congr (by simp) (by simp [not_reaches_nil])
  | v :: rest => by
    unfold Value.literals
    have hrow := (Value.literal_shows v).bind fun shown =>
      (Value.literals_shows rest).make fun others => shown :: others
    exact hrow.congr List.forall_mem_cons.symm fun e => by rw [reaches_cons]

theorem Value.fieldLiterals_shows : ∀ fields : List (String × Value),
    Shows (Value.fieldLiterals fields) (∀ v ∈ fields.map Prod.snd, v.Showable) fun e =>
      Reaches Value.Showable (·.StopsAt e) (fields.map Prod.snd)
  | [] => by
    unfold Value.fieldLiterals
    exact (Shows.ok _).congr (by simp) (by simp [not_reaches_nil])
  | (name, v) :: rest => by
    unfold Value.fieldLiterals
    have hrow := (Value.literal_shows v).bind fun shown =>
      (Value.fieldLiterals_shows rest).make fun others => (quoted name ++ ": " ++ shown) :: others
    exact hrow.congr List.forall_mem_cons.symm fun e => by rw [List.map_cons, reaches_cons]

end

/-- A value is shown bare under the same conditions. -/
theorem Value.display_shows (v : Value) : Shows v.display v.Showable v.StopsAt := by
  cases v with
  | text | metric | point | box | distance | circle | sphere | polygon =>
    unfold Value.display
    exact Shows.atom _ rfl (Value.not_obstructed (by simp) (by simp))
  | geoJson geometry =>
    unfold Value.display
    exact (Value.literal_shows geometry).wrapper _
  | geoCommand command shape =>
    unfold Value.display
    have hshape := (Value.literal_shows shape).make fun shown =>
      Attributes.write " " (geoCommandAttributes command shown)
    exact Shows.ofParts (Value.not_obstructed (by simp) (by simp))
      (hshape.congr (by simp [Value.parts]) (by simp [Value.parts, reaches_singleton]))
  | null | bool | int | float | list | tuple | document | «foreign» =>
    unfold Value.display
    exact Value.literal_shows _

theorem Value.Showable.not_stopsAt (h : v.Showable) : ¬ v.StopsAt e := by
  rw [← v.literal_shows.error_iff]
  obtain ⟨shown, hshown⟩ := v.literal_shows.ok_iff.mpr h
  rw [hshown]
  nofun

/-- A value stops at one fault only. -/
theorem Value.StopsAt.unique {f : Fault} (h : v.StopsAt e) (h' : v.StopsAt f) : e = f := by
  rw [← v.literal_shows.error_iff] at h h'
  exact Except.error.inj (h.symm.trans h')

end ShapeCodec
