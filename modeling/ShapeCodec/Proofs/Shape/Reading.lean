/-
# Reading back what was written

What the readers do with the parts that the writers write. A written point is read back, as a
document and as a pair, whatever its coordinates are, and so is a row of them in its order. The
type of a legacy document is never taken for a GeoJSON type, since it has none.

Before that it is said of the steps of acceptance and of the readers what they were given if they
went well (`Verdict.both_eq_accepted`, `acceptField_eq_accepted`, `bind_eq_ok`).

The two readers of rows differ in how they read an element, and the readers of circles and of
spheres in the name they give in faults. Each pair is one reader with that for a parameter
(`readPoints_eq_mapM`, `readRing_eq_mapM`, `Circle.decode_eq`, `Sphere.decode_eq`).

Key definitions: `CenteredShape.decode`.
Key theorems: `acceptField_eq_accepted`, `bind_eq_ok`, `Point.ofFields_encode`,
`Point.ofPair_pair`, `readPoints_eq_mapM`, `readRing_eq_mapM`, `mapM_map`,
`Polygon.ofPoints_of_ne_nil`.
-/
import ShapeCodec.Shape.Decode
import ShapeCodec.Shape.Encode

namespace ShapeCodec

variable {α β : Type}

/-! ### Verdicts -/

namespace Verdict

@[simp] theorem map_accepted (f : α → β) (a : α) : (accepted a).map f = accepted (f a) := rfl

@[simp] theorem within_accepted (place : String) (a : α) :
    (accepted a).within place = accepted a := rfl

@[simp] theorem orMalformed_accepted (subject : String) (a : α) :
    (accepted a).orMalformed subject = .ok a := rfl

theorem map_eq_accepted {f : α → β} {v : Verdict α} {b : β} :
    v.map f = accepted b ↔ ∃ a, v = accepted a ∧ f a = b := by
  cases v <;> simp [map]

theorem within_eq_accepted {place : String} {v : Verdict α} {a : α} :
    v.within place = accepted a ↔ v = accepted a := by
  cases v <;> simp [within]

theorem both_eq_accepted {v : Verdict α} {w : Verdict β} {a : α} {b : β} :
    v.both w = accepted (a, b) ↔ v = accepted a ∧ w = accepted b := by
  cases v <;> cases w <;> simp [both]

theorem andThen_eq_accepted {v : Verdict α} {f : α → Verdict β} {b : β} :
    v.andThen f = accepted b ↔ ∃ a, v = accepted a ∧ f a = accepted b := by
  cases v <;> simp [andThen]

theorem orMalformed_eq_ok {subject : String} {v : Verdict α} {a : α} :
    v.orMalformed subject = .ok a ↔ v = accepted a := by
  cases v <;> simp [orMalformed]

theorem orUnusable_eq_ok {subject : String} {v : Verdict α} {a : α} :
    v.orUnusable subject = .ok a ↔ v = accepted a := by
  cases v <;> simp [orUnusable]

theorem orRejected_eq_ok {v : Verdict α} {a : α} : v.orRejected = .ok a ↔ v = accepted a := by
  cases v <;> simp [orRejected]

end Verdict

theorem acceptField_eq_accepted {fields : Document} {name : String} {accept : Value → Verdict α}
    {a : α} : acceptField fields name accept = .accepted a ↔
      ∃ v, fields.lookup name = some v ∧ accept v = .accepted a := by
  unfold acceptField
  cases fields.lookup name with
  | none => simp
  | some v => simp [Verdict.within_eq_accepted]

/-! ### Steps of a reader -/

theorem bind_eq_ok {r : Except Fault α} {g : α → Except Fault β} {b : β} :
    r.bind g = .ok b ↔ ∃ a, r = .ok a ∧ g a = .ok b := by
  cases r <;> simp [Except.bind]

theorem map_eq_ok {r : Except Fault α} {f : α → β} {b : β} :
    r.map f = .ok b ↔ ∃ a, r = .ok a ∧ f a = b := by
  cases r <;> simp [Except.map]

/-! ### Points -/

@[simp] theorem Point.ofCoordinates_float (x y : Float) :
    Point.ofCoordinates (.float x) (.float y) = .accepted ⟨x, y⟩ := rfl

@[simp] theorem Point.ofFields_encode (p : Point) : Point.ofFields p.encode = .ok p := by
  simp [Point.ofFields, Point.encode, List.lookup_cons]

@[simp] theorem Point.ofPair_pair (p : Point) : Point.ofPair p.pair = .ok p := by
  simp [Point.ofPair, Point.pair, Value.items?]

theorem Point.not_hasType_encode (p : Point) (type : String) :
    hasType p.encode type = false := by
  simp [hasType, Point.encode, List.lookup_cons]

@[simp] theorem Point.ofValue_encode (p : Point) :
    Point.ofValue (.document p.encode) = .ok p := by
  simp [Point.ofValue, Value.items?, Point.ofDocument, p.not_hasType_encode]

@[simp] theorem Point.ofElement_encode (p : Point) :
    Point.ofElement (.document p.encode) = .ok p := Point.ofValue_encode p

@[simp] theorem Point.ofElement_pair (p : Point) : Point.ofElement p.pair = .ok p :=
  Point.ofPair_pair p

@[simp] theorem Point.ofRingElement_pair (p : Point) :
    Point.ofRingElement p.pair = .ok p := Point.ofPair_pair p

/-! ### Rows of points

Both readers of rows go through a row with a reader of elements. -/

theorem readPoints_eq_mapM (elements : List Value) :
    readPoints elements = elements.mapM Point.ofElement := by
  induction elements with
  | nil => rfl
  | cons v rest ih => rw [readPoints, List.mapM_cons, ih]

theorem readRing_eq_mapM (elements : List Value) :
    readRing elements = elements.mapM Point.ofRingElement := by
  induction elements with
  | nil => rfl
  | cons v rest ih => rw [readRing, List.mapM_cons, ih]

theorem mapM_singleton (read : α → Except Fault β) (a : α) :
    [a].mapM read = (read a).map fun b => [b] := by
  rw [List.mapM_cons, List.mapM_nil]
  cases read a <;> rfl

/-- A row that was written element by element is read back element by element. -/
theorem mapM_map {write : β → α} {read : α → Except Fault β} (h : ∀ b, read (write b) = .ok b) :
    ∀ row : List β, (row.map write).mapM read = .ok row
  | [] => rfl
  | b :: rest => by
    rw [List.map_cons, List.mapM_cons, h, mapM_map h rest]
    rfl

theorem readPoints_encode (points : List Point) :
    readPoints (points.map fun p => .document p.encode) = .ok points := by
  rw [readPoints_eq_mapM, mapM_map Point.ofElement_encode]

theorem readPoints_pair (points : List Point) :
    readPoints (points.map Point.pair) = .ok points := by
  rw [readPoints_eq_mapM, mapM_map Point.ofElement_pair]

theorem readRing_pair (points : List Point) : readRing (points.map Point.pair) = .ok points := by
  rw [readRing_eq_mapM, mapM_map Point.ofRingElement_pair]

theorem Polygon.ofPoints_of_ne_nil {points : List Point} (h : points ≠ []) :
    Polygon.ofPoints points = .accepted ⟨points⟩ := by
  rw [Polygon.ofPoints, if_neg (by simpa using h)]

/-! ### Circles and spheres -/

theorem Distance.asRadius_of_not_lt {d : Distance} (h : ¬ d.value < 0) :
    d.asRadius = .accepted d := by
  rw [Distance.asRadius, if_neg h]

theorem Distance.asRadius_eq_accepted {d e : Distance} :
    d.asRadius = .accepted e ↔ ¬ d.value < 0 ∧ d = e := by
  unfold Distance.asRadius
  split
  · next h => simp [Verdict.refuse, h]
  · next h => simp [h]

theorem CenteredShape.ofParts_of_not_lt (center : Point) {radius : Distance}
    (h : ¬ radius.value < 0) : CenteredShape.ofParts center radius = .accepted ⟨center, radius⟩ := by
  rw [CenteredShape.ofParts, Distance.asRadius_of_not_lt h, Verdict.within_accepted,
    Verdict.map_accepted]

/-- Reads the parts of a circle or a sphere. The kind is named in faults alone. -/
def CenteredShape.decode (kind : String) : Value → Except Fault (Option CenteredShape)
  | .null => .ok none
  | .document fields => (CenteredShape.ofDocument kind fields).map some
  | v => .error (.malformedShape (.notADocument kind v.typeName))

theorem Circle.decode_eq (v : Value) :
    Circle.decode v = (CenteredShape.decode "circle" v).map (Option.map Circle.mk) := by
  cases v with
  | document fields =>
    rw [Circle.decode, CenteredShape.decode]
    cases CenteredShape.ofDocument "circle" fields <;> rfl
  | _ => rfl

theorem Sphere.decode_eq (v : Value) :
    Sphere.decode v = (CenteredShape.decode "sphere" v).map (Option.map Sphere.mk) := by
  cases v with
  | document fields =>
    rw [Sphere.decode, CenteredShape.decode]
    cases CenteredShape.ofDocument "sphere" fields <;> rfl
  | _ => rfl

theorem Metric.resolve_name (m : Metric) : Metric.resolve (.text m.name) = .ok m := by
  rw [Metric.resolve, Value.metric?, Value.text?, Option.bind_some, Metric.ofName?_name]

end ShapeCodec
