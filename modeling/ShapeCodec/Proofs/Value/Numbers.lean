/-
# The doubles in a value

A double stands in a value of itself, as a coordinate of a shape or as its radius. What is said of
all doubles in a value is said of those it holds of itself and of those in its parts, at any depth.

Key definitions: `Value.numbers`, `Value.AllNumbers`, `Value.Finite`, `Value.NoNaN`.
-/
import ShapeCodec.Proofs.Json.Plain
import ShapeCodec.Proofs.Value.Parts

namespace ShapeCodec

/-- The coordinates of a point. -/
def Point.numbers (p : Point) : List Float := [p.x, p.y]

/-- The coordinates of the center, and the radius. -/
def CenteredShape.numbers (s : CenteredShape) : List Float := s.center.numbers ++ [s.radius.value]

namespace Value

/-- The doubles that a value holds of itself and not in its parts. -/
def numbers : Value → List Float
  | float x => [x]
  | point p => p.numbers
  | box b => b.first.numbers ++ b.second.numbers
  | distance d => [d.value]
  | circle c => c.toCenteredShape.numbers
  | sphere s => s.toCenteredShape.numbers
  | polygon q => q.points.flatMap Point.numbers
  | _ => []

variable {P : Float → Prop}

/-- A value in which every double, at any depth, has a property. -/
def AllNumbers (P : Float → Prop) (v : Value) : Prop := v.Throughout fun part => ∀ x ∈ part.numbers, P x

/-- A value in which every double is finite. -/
def Finite (v : Value) : Prop := v.AllNumbers fun x => x.isFinite = true

/-- A value in which every double is a number. -/
def NoNaN (v : Value) : Prop := v.AllNumbers fun x => x.isNaN = false

theorem allNumbers_iff {v : Value} : v.AllNumbers P ↔
    (∀ x ∈ v.numbers, P x) ∧ ∀ part ∈ v.parts, part.AllNumbers P := throughout_iff

/-- In a value without parts, the doubles are those it holds of itself. -/
theorem allNumbers_of_parts {v : Value} (h : v.parts = []) :
    v.AllNumbers P ↔ ∀ x ∈ v.numbers, P x := by
  rw [allNumbers_iff, h]
  simp

@[simp] theorem allNumbers_null : null.AllNumbers P := (allNumbers_of_parts rfl).mpr nofun

@[simp] theorem allNumbers_bool (b : Bool) : (bool b).AllNumbers P :=
  (allNumbers_of_parts rfl).mpr nofun

@[simp] theorem allNumbers_int (n : Int) : (int n).AllNumbers P :=
  (allNumbers_of_parts rfl).mpr nofun

@[simp] theorem allNumbers_text (s : String) : (text s).AllNumbers P :=
  (allNumbers_of_parts rfl).mpr nofun

@[simp] theorem allNumbers_float {x : Float} : (float x).AllNumbers P ↔ P x := by
  simp [allNumbers_of_parts (v := float x) rfl, numbers]

@[simp] theorem allNumbers_list {items : List Value} :
    (list items).AllNumbers P ↔ ∀ v ∈ items, v.AllNumbers P := by
  simp [allNumbers_iff (v := list items), numbers, parts]

@[simp] theorem allNumbers_document {fields : Document} :
    (document fields).AllNumbers P ↔ ∀ field ∈ fields, field.2.AllNumbers P := by
  rw [allNumbers_iff, parts, List.forall_mem_map]
  simp [numbers]

@[simp] theorem allNumbers_point {p : Point} : (point p).AllNumbers P ↔ P p.x ∧ P p.y := by
  simp [allNumbers_of_parts (v := point p) rfl, numbers, Point.numbers]

@[simp] theorem allNumbers_distance {d : Distance} : (distance d).AllNumbers P ↔ P d.value := by
  simp [allNumbers_of_parts (v := distance d) rfl, numbers]

@[simp] theorem allNumbers_box {b : Box} : (box b).AllNumbers P ↔
    (point b.first).AllNumbers P ∧ (point b.second).AllNumbers P := by
  rw [allNumbers_of_parts rfl, allNumbers_of_parts rfl, allNumbers_of_parts rfl]
  simp [numbers, or_imp, forall_and]

theorem forall_numbers_centered {s : CenteredShape} :
    (∀ x ∈ s.numbers, P x) ↔ (point s.center).AllNumbers P ∧ P s.radius.value := by
  rw [allNumbers_of_parts rfl]
  simp [CenteredShape.numbers, numbers, or_imp, forall_and]

@[simp] theorem allNumbers_circle {c : Circle} : (circle c).AllNumbers P ↔
    (point c.center).AllNumbers P ∧ P c.radius.value :=
  (allNumbers_of_parts rfl).trans forall_numbers_centered

@[simp] theorem allNumbers_sphere {s : Sphere} : (sphere s).AllNumbers P ↔
    (point s.center).AllNumbers P ∧ P s.radius.value :=
  (allNumbers_of_parts rfl).trans forall_numbers_centered

@[simp] theorem allNumbers_polygon {q : Polygon} : (polygon q).AllNumbers P ↔
    ∀ p ∈ q.points, (point p).AllNumbers P := by
  rw [allNumbers_of_parts rfl, numbers, List.forall_mem_flatMap]
  exact forall₂_congr fun p _ => (allNumbers_of_parts (v := point p) rfl).symm

@[simp] theorem allNumbers_geoJson {geometry : Value} :
    (geoJson geometry).AllNumbers P ↔ geometry.AllNumbers P := by
  simp [allNumbers_iff (v := geoJson geometry), numbers, parts]

theorem allNumbers_documentOf {fields : List (String × Value)}
    (h : ∀ field ∈ fields, field.2.AllNumbers P) : (Json.documentOf fields).AllNumbers P := by
  obtain ⟨kept, hkept, -, hmem⟩ := Json.documentOf_eq fields
  rw [hkept, allNumbers_document]
  exact fun field hfield => h field (hmem field hfield)

end Value

end ShapeCodec
