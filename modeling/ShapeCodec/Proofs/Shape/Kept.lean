/-
# What is kept of a shape

A shape can be written out in two ways, as its plain form and as its legacy document. The plain
form keeps everything: accepted as the class of the shape it is that shape again, bit for bit,
with a radius in its own metric. So no two shapes of a class share a plain form. The legacy
document of a point, a box or a polygon is the same document; that of a circle or a sphere is
another one, with a bare number of radians for the radius.

Key definitions: `Class.shapes`.
Key theorems: `ShapeKind.Admits.encode_plain`, `Class.eq_of_plain`, `Class.plain_inverse`.
-/
import ShapeCodec.Proofs.Shape.Production

namespace ShapeCodec

/-- The classes whose instances are made of numbers and metrics alone. -/
def Class.shapes : List Class := [.point, .box, .distance, .circle, .sphere, .polygon]

/-- A class of shapes is that of a kind, or that of distances. -/
theorem Class.mem_shapes {c : Class} (h : c ∈ Class.shapes) :
    c = .distance ∨ ∃ kind : ShapeKind, kind.toClass = c := by
  cases c with
  | distance => exact Or.inl rfl
  | point => exact Or.inr ⟨.point, rfl⟩
  | box => exact Or.inr ⟨.box, rfl⟩
  | circle => exact Or.inr ⟨.circle, rfl⟩
  | sphere => exact Or.inr ⟨.sphere, rfl⟩
  | polygon => exact Or.inr ⟨.polygon, rfl⟩
  | _ => simp [Class.shapes] at h

/-! ### Plain forms and legacy documents -/

/-- Where no radius has to be written, the legacy document is the plain form. -/
theorem ShapeKind.Admits.encode_plain {kind : ShapeKind} {s form : Value} (h : kind.Admits s)
    (hkind : kind ∈ [.point, .box, .polygon]) (hform : s.plain = .ok form) :
    (kind.encode? s).map Value.document = some form := by
  cases h with
  | point p => exact congrArg some (Except.ok.inj hform)
  | box b => exact congrArg some (Except.ok.inj hform)
  | polygon => exact congrArg some (Except.ok.inj hform)
  | circle | sphere => simp at hkind

/-! ### Accepted again -/

/-- An instance of a class of shapes has a plain form, which is plain and is accepted as that
instance. -/
theorem Class.accept?_plain {c : Class} {v s : Value} (hc : c ∈ Class.shapes) (hv : Produced v)
    (h : c.accept? v = some (.accepted s)) :
    ∃ form, s.plain = .ok form ∧ Json.Plain form ∧ c.accept? form = some (.accepted s) := by
  rcases Class.mem_shapes hc with rfl | ⟨kind, rfl⟩
  · obtain ⟨d, -, rfl⟩ := Verdict.map_eq_accepted.mp (Option.some.inj h)
    refine ⟨d.plain, rfl, d.plain_plain, ?_⟩
    rw [Class.accept?, Distance.accept_plain, Verdict.map_accepted]
  · rw [kind.accept?_toClass] at h
    have hadmits : kind.Admits s :=
      ShapeKind.admits_of_valid hv.sound.here (Option.some.inj h)
    obtain ⟨form, hform, hplain, haccept⟩ := hadmits.accept_plain
    exact ⟨form, hform, hplain, by rw [kind.accept?_toClass, haccept]⟩

/-- Two instances of a class of shapes with one plain form are the same. -/
theorem Class.eq_of_plain {c : Class} {v w s t form : Value} (hc : c ∈ Class.shapes)
    (hv : Produced v) (hw : Produced w) (hs : c.accept? v = some (.accepted s))
    (ht : c.accept? w = some (.accepted t)) (hsform : s.plain = .ok form)
    (htform : t.plain = .ok form) : s = t := by
  obtain ⟨_, hsplain, -, hsagain⟩ := Class.accept?_plain hc hv hs
  obtain ⟨_, htplain, -, htagain⟩ := Class.accept?_plain hc hw ht
  obtain rfl := Except.ok.inj (hsform.symm.trans hsplain)
  obtain rfl := Except.ok.inj (htform.symm.trans htplain)
  exact Verdict.accepted.inj (Option.some.inj (hsagain.symm.trans htagain))

/-- **Acceptance undoes the plain form.** Every instance of a class of shapes that was produced has
a plain form. That is plain data with no instance in it, and the class accepts it as the same
instance: each number as it was, a radius in its own metric, the points in their order. Of a point,
a box and a polygon it is the legacy document, field by field. -/
theorem Class.plain_inverse {c : Class} {v s : Value} (hc : c ∈ Class.shapes) (hv : Produced v)
    (h : c.accept? v = some (.accepted s)) :
    ∃ form, s.plain = .ok form ∧ Json.Plain form ∧ c.accept? form = some (.accepted s) ∧
      ∀ kind ∈ [ShapeKind.point, .box, .polygon], kind.toClass = c →
        (kind.encode? s).map Value.document = some form := by
  obtain ⟨form, hform, hplain, haccept⟩ := Class.accept?_plain hc hv h
  refine ⟨form, hform, hplain, haccept, ?_⟩
  rintro kind hkind rfl
  rw [kind.accept?_toClass] at h
  have hadmits : kind.Admits s := ShapeKind.admits_of_valid hv.sound.here (Option.some.inj h)
  exact hadmits.encode_plain hkind hform

/-- A circle with a radius in miles, of a center and a radius that are instances already, and a
triangle with a coordinate that is no number. -/
theorem plain_inverse_samples :
    let radius : Distance := ⟨2.5, .miles⟩
    let v : Value := .document [("center", .point ⟨1.5, -0.0⟩), ("radius", .distance radius)]
    let circle : Value := .circle ⟨⟨⟨1.5, -0.0⟩, radius⟩⟩
    let triangle : Value := .polygon ⟨[⟨0.0, 0.0⟩, ⟨0.0 / 0.0, 1.0⟩, ⟨1.0, -0.0⟩]⟩
    Class.circle.accept? v = some (.accepted circle) ∧
    (∃ form, circle.plain = .ok form ∧ Json.Plain form ∧
      Class.circle.accept? form = some (.accepted circle) ∧
      ∀ kind ∈ [ShapeKind.point, .box, .polygon], kind.toClass = .circle →
        (kind.encode? circle).map Value.document = some form) ∧
    ∃ form, triangle.plain = .ok form ∧ Json.Plain form ∧
      Class.polygon.accept? form = some (.accepted triangle) ∧
      ∀ kind ∈ [ShapeKind.point, .box, .polygon], kind.toClass = .polygon →
        (kind.encode? triangle).map Value.document = some form := by
  intro radius v circle triangle
  have hv : Produced v := by
    refine .data id fun part hpart => ?_
    rcases List.mem_pair.mp hpart with rfl | rfl
    · exact (ShapeKind.Admits.point ⟨1.5, -0.0⟩).produced
    · exact radius.produced
  have hradius : Distance.acceptRadius (.distance radius) = .accepted radius :=
    Distance.asRadius_of_not_lt (by decide +kernel)
  have hcircle : Class.circle.accept? v = some (.accepted circle) := by
    have hfield : acceptField [("center", .point ⟨1.5, -0.0⟩), ("radius", .distance radius)]
        "radius" Distance.acceptRadius = .accepted radius :=
      acceptField_eq_accepted.mpr ⟨.distance radius, rfl, hradius⟩
    rw [Class.accept?, ShapeKind.accept, Circle.accept, CenteredShape.acceptFields, hfield]
    rfl
  have htriangle : Produced triangle :=
    (ShapeKind.Admits.polygon (List.cons_ne_nil _ _)).produced
  exact ⟨hcircle, Class.plain_inverse (by decide) hv hcircle,
    Class.plain_inverse (by decide) htriangle rfl⟩

end ShapeCodec
