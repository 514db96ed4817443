/-
# The parts of a value

Lists, tuples and documents are made of values, and the two wrappers hold one. A shape is made of
numbers and not of values, and an object of another class is not looked into. What is said of a
value with everything in it, at any depth, is said of the value and throughout its parts. What goes
through a row in order comes to an element only past all before it (`Reaches`).

Key definitions: `Reaches`, `Value.parts`, `Value.Throughout`.
Key theorems: `reaches_cons`, `Value.induct_parts`, `Value.Throughout.field`.
-/
import Mathlib.Data.List.Forall2
import ShapeCodec.Value

namespace ShapeCodec

/-! ### Rows side by side -/

section
variable {α β : Type} {R : α → β → Prop} {p : α → Prop} {q : β → Prop} {as : List α} {bs : List β}

/-- What a relation carries over to the right holds of all of the right side. -/
theorem forall₂_right (h : List.Forall₂ R as bs) (hp : ∀ a ∈ as, p a)
    (hq : ∀ a b, R a b → p a → q b) : ∀ b ∈ bs, q b := by
  induction h with
  | nil => nofun
  | cons hab _ ih =>
    obtain ⟨ha, has⟩ := List.forall_mem_cons.mp hp
    exact List.forall_mem_cons.mpr ⟨hq _ _ hab ha, ih has⟩

theorem forall₂_left (h : List.Forall₂ R as bs) (hq : ∀ b ∈ bs, q b)
    (hp : ∀ a b, R a b → q b → p a) : ∀ a ∈ as, p a :=
  forall₂_right (List.Forall₂.flip (R := flip R) h) hq fun b a => hp a b

theorem exists_forall₂ (h : ∀ a ∈ as, ∃ b, R a b) : ∃ bs, List.Forall₂ R as bs := by
  induction as with
  | nil => exact ⟨[], .nil⟩
  | cons a as ih =>
    obtain ⟨ha, has⟩ := List.forall_mem_cons.mp h
    obtain ⟨b, hb⟩ := ha
    obtain ⟨bs, hbs⟩ := ih has
    exact ⟨b :: bs, .cons hb hbs⟩

end

/-! ### Rows in order -/

section
variable {α : Type} {passes stops : α → Prop} {a : α} {row : List α}

/-- A row of which an element stops what goes through it, and all elements before it let it pass. -/
def Reaches (passes stops : α → Prop) (row : List α) : Prop :=
  ∃ before a after, row = before ++ a :: after ∧ (∀ u ∈ before, passes u) ∧ stops a

theorem not_reaches_nil : ¬ Reaches passes stops [] := by
  rintro ⟨before, a, after, h, -⟩
  cases before <;> cases h

theorem reaches_cons :
    Reaches passes stops (a :: row) ↔ stops a ∨ passes a ∧ Reaches passes stops row := by
  constructor
  · rintro ⟨before, b, after, h, hbefore, hb⟩
    cases before with
    | nil =>
      obtain ⟨rfl, -⟩ := List.cons.inj h
      exact Or.inl hb
    | cons u before =>
      obtain ⟨rfl, hrest⟩ := List.cons.inj h
      obtain ⟨hu, hbefore⟩ := List.forall_mem_cons.mp hbefore
      exact Or.inr ⟨hu, before, b, after, hrest, hbefore, hb⟩
  · rintro (ha | ⟨ha, before, b, after, rfl, hbefore, hb⟩)
    · exact ⟨[], a, row, rfl, by simp, ha⟩
    · exact ⟨a :: before, b, after, rfl, List.forall_mem_cons.mpr ⟨ha, hbefore⟩, hb⟩

theorem reaches_singleton : Reaches passes stops [a] ↔ stops a := by
  rw [reaches_cons]
  exact or_iff_left fun h => not_reaches_nil h.2

/-- Nothing is reached in a row of elements that do not stop. -/
theorem not_reaches (h : ∀ u ∈ row, ¬ stops u) : ¬ Reaches passes stops row := by
  rintro ⟨before, u, after, rfl, -, hu⟩
  exact h u (by simp) hu

end

/-! ### Parts -/

namespace Value

/-- The values that a value is made of. -/
def parts : Value → List Value
  | list items => items
  | tuple items => items
  | document fields => fields.map Prod.snd
  | geoJson geometry => [geometry]
  | geoCommand _ shape => [shape]
  | _ => []

theorem sizeOf_lt_of_mem_fields {fields : Document} {part : Value}
    (h : part ∈ fields.map Prod.snd) : sizeOf part < sizeOf fields := by
  obtain ⟨⟨name, v⟩, hfield, rfl⟩ := List.mem_map.mp h
  have hlt := List.sizeOf_lt_of_mem hfield
  rw [Prod.mk.sizeOf_spec] at hlt
  show sizeOf v < sizeOf fields
  omega

theorem sizeOf_lt_of_mem_parts {v part : Value} (h : part ∈ v.parts) : sizeOf part < sizeOf v := by
  cases v with
  | list items | tuple items =>
    have hlt : sizeOf part < sizeOf items := List.sizeOf_lt_of_mem h
    simp only [list.sizeOf_spec, tuple.sizeOf_spec]
    omega
  | document fields =>
    have hlt : sizeOf part < sizeOf fields := sizeOf_lt_of_mem_fields h
    rw [document.sizeOf_spec]
    omega
  | geoJson geometry =>
    obtain rfl := List.mem_singleton.mp h
    rw [geoJson.sizeOf_spec]
    omega
  | geoCommand command shape =>
    obtain rfl := List.mem_singleton.mp h
    rw [geoCommand.sizeOf_spec]
    omega
  | _ => cases h

/-- Induction on the parts of a value. -/
@[elab_as_elim]
theorem induct_parts {motive : Value → Prop}
    (step : ∀ v : Value, (∀ part ∈ v.parts, motive part) → motive v) (v : Value) : motive v :=
  step v fun part _ => induct_parts step part
termination_by sizeOf v
decreasing_by exact sizeOf_lt_of_mem_parts ‹_›

/-- A property that holds of a value and of everything in it. -/
inductive Throughout (P : Value → Prop) : Value → Prop where
  | intro {v : Value} (here : P v) (inside : ∀ part ∈ v.parts, Throughout P part) : Throughout P v

variable {P Q : Value → Prop} {v : Value}

theorem throughout_iff : v.Throughout P ↔ P v ∧ ∀ part ∈ v.parts, part.Throughout P := by
  constructor
  · rintro ⟨here, inside⟩
    exact ⟨here, inside⟩
  · rintro ⟨here, inside⟩
    exact .intro here inside

theorem Throughout.here (h : v.Throughout P) : P v := (throughout_iff.mp h).1

theorem Throughout.inside (h : v.Throughout P) : ∀ part ∈ v.parts, part.Throughout P :=
  (throughout_iff.mp h).2

/-- What stands in a field of a document. -/
theorem Throughout.field {fields : Document} {name : String} (h : (document fields).Throughout P)
    (hfield : fields.lookup name = some v) : v.Throughout P := by
  have hmem : (name, v) ∈ fields := by
    obtain ⟨before, after, hfields, -⟩ := List.lookup_eq_some_iff.mp hfield
    rw [hfields]
    simp
  exact h.inside v (List.mem_map.mpr ⟨(name, v), hmem, rfl⟩)

/-- What stands among the items of a list or a tuple. -/
theorem Throughout.item {items : List Value} {part : Value} (h : v.Throughout P)
    (hitems : v.items? = some items) (hpart : part ∈ items) : part.Throughout P := by
  unfold items? at hitems
  split at hitems
  · obtain rfl := Option.some.inj hitems
    exact h.inside part hpart
  · obtain rfl := Option.some.inj hitems
    exact h.inside part hpart
  · cases hitems

end Value

end ShapeCodec
