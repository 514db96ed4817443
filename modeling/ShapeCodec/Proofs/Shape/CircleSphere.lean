/-
# Circles and spheres

A circle and a sphere have the same parts and are told apart by their class alone. Each has its own
reader, its own acceptance and its own writers, and nothing that is done with one is done otherwise
with the other. From any value both are read with the same center and radius, or both readers fail,
with faults of one class that differ in no more than the kind of shape they name (`decode_twins`). A
document is accepted as both or as neither. What is written of a circle is what is written of the
sphere of the same parts, so that a circle can be read from the document of a sphere, and a sphere
from that of a circle, as what its own document would give (`circle_sphere_alike`).

Only a value that is one of the two already is taken differently: a circle is accepted as a circle
and not as a sphere, which is why acceptance is compared on documents.

Key definitions: `Fault.SameClass`, `Fault.Twins`, `SameReading`, `SameVerdict`, `SameWriting`.
Key theorems: `CenteredShape.ofDocument_twins`, `decode_twins`, `circle_sphere_alike`.
-/
import ShapeCodec.Command
import ShapeCodec.Proofs.GeoJson.RoundTrip
import ShapeCodec.Proofs.Shape.Failure
import ShapeCodec.Proofs.Shape.Legacy
import ShapeCodec.Value.Plain

namespace ShapeCodec

variable {c : Circle} {s : Sphere} {fields : Document} {kind other : String}

/-! ### Faults -/

/-- Faults of one class, whatever they say of their cause. -/
def Fault.SameClass (e f : Fault) : Prop := e.ctorIdx = f.ctorIdx

/-- Causes that differ in no more than the kind of shape they name. -/
inductive ShapeFault.Twins (kind other : String) : ShapeFault → ShapeFault → Prop
  | notADocument (found : String) :
    Twins kind other (.notADocument kind found) (.notADocument other found)
  | invalidRadius (complaints : List Complaint) :
    Twins kind other (.invalid (kind ++ " radius") complaints)
      (.invalid (other ++ " radius") complaints)
  | invalid (complaints : List Complaint) :
    Twins kind other (.invalid kind complaints) (.invalid other complaints)

/-- Faults that differ in no more than the kind of shape they name. -/
inductive Fault.Twins (kind other : String) : Fault → Fault → Prop
  | same (f : Fault) : Twins kind other f f
  | malformedShape {cause cause' : ShapeFault} (h : cause.Twins kind other cause') :
    Twins kind other (.malformedShape cause) (.malformedShape cause')

theorem Fault.Twins.sameClass {e f : Fault} (h : e.Twins kind other f) : e.SameClass f := by
  cases h <;> rfl

/-! ### Readers -/

theorem Verdict.orMalformed_twins {α : Type} {subject subject' : String}
    (h : ∀ complaints, ShapeFault.Twins kind other (.invalid subject complaints)
      (.invalid subject' complaints)) (r : Verdict α) :
    Alike Eq (Fault.Twins kind other) (r.orMalformed subject) (r.orMalformed subject') := by
  cases r with
  | accepted a => exact .ok rfl
  | refused complaints => exact .error (.malformedShape (h complaints))
  | overflow => exact .error (.same _)

/-- **The parts of a circle or a sphere are read the same for either kind.** -/
theorem CenteredShape.ofDocument_twins (kind other : String) (fields : Document) :
    Alike Eq (Fault.Twins kind other) (CenteredShape.ofDocument kind fields)
      (CenteredShape.ofDocument other fields) := by
  unfold CenteredShape.ofDocument
  apply Alike.after _ .same
  intro center
  apply Alike.after _ .same
  intro radius
  apply (Verdict.orMalformed_twins .invalidRadius _).bind
  rintro distance _ rfl
  apply Alike.after _ .same
  intro distance
  apply Alike.after _ .same
  intro center
  exact Verdict.orMalformed_twins .invalid _

/-- What is read as a circle and as a sphere: nothing as both, the same parts as both, or neither,
with faults of one class. -/
inductive SameReading : Except Fault (Option Circle) → Except Fault (Option Sphere) → Prop
  | nothing : SameReading (.ok none) (.ok none)
  | shape (s : CenteredShape) : SameReading (.ok (some ⟨s⟩)) (.ok (some ⟨s⟩))
  | fault {e f : Fault} (hclass : e.SameClass f) (htwins : e.Twins "circle" "sphere" f) :
    SameReading (.error e) (.error f)

theorem SameReading.twins {e f : Fault} (h : e.Twins "circle" "sphere" f) :
    SameReading (.error e) (.error f) := .fault h.sameClass h

theorem SameReading.of_alike {r t : Except Fault CenteredShape}
    (h : Alike Eq (Fault.Twins "circle" "sphere") r t) :
    SameReading (r.map fun s => some ⟨s⟩) (t.map fun s => some ⟨s⟩) := by
  cases h with
  | ok heq =>
    rw [← heq]
    exact .shape _
  | error h => exact .twins h

/-- **A circle and a sphere are read from any value alike.** -/
theorem decode_twins (v : Value) : SameReading (Circle.decode v) (Sphere.decode v) := by
  cases v with
  | null => exact .nothing
  | document fields =>
    exact SameReading.of_alike (CenteredShape.ofDocument_twins "circle" "sphere" fields)
  | _ => exact .twins (.malformedShape (.notADocument _))

/-! ### Acceptance -/

/-- What is accepted as a circle and as a sphere: the same parts as both, or neither with the same
complaints, or an overflow both. -/
inductive SameVerdict : Verdict Circle → Verdict Sphere → Prop
  | accepted (s : CenteredShape) : SameVerdict (.accepted ⟨s⟩) (.accepted ⟨s⟩)
  | refused (complaints : List Complaint) : SameVerdict (.refused complaints) (.refused complaints)
  | overflow : SameVerdict .overflow .overflow

theorem accept_twins (fields : Document) :
    SameVerdict (Circle.accept (.document fields)) (Sphere.accept (.document fields)) := by
  rw [Circle.accept, Sphere.accept]
  cases CenteredShape.acceptFields fields with
  | accepted s => exact .accepted s
  | refused complaints => exact .refused complaints
  | overflow => exact .overflow

/-! ### Writers -/

/-- What is written of a circle and of a sphere: the same legacy document, the same arguments of a
command and the same plain form, and no GeoJSON of either. -/
structure SameWriting (c : Circle) (s : Sphere) : Prop where
  legacy : c.encode = s.encode
  arguments : ∃ arguments, (Value.circle c).arguments? = some arguments ∧
    (Value.sphere s).arguments? = some arguments
  command : ∀ strict name,
    GeoCommand.encode strict ⟨name, .circle c⟩ = GeoCommand.encode strict ⟨name, .sphere s⟩
  plain : ∃ form, (Value.circle c).plain = .ok form ∧ (Value.sphere s).plain = .ok form
  noGeoJson : ∀ shared v w, Presents (.circle c) v → Presents (.sphere s) w →
    encodeGeoJson shared v = .error (.unusableArgument (.unknownType "Circle")) ∧
      encodeGeoJson shared w = .error (.unusableArgument (.unknownType "Sphere"))

theorem sameWriting (shape : CenteredShape) : SameWriting ⟨shape⟩ ⟨shape⟩ where
  legacy := rfl
  arguments := ⟨shape.arguments, rfl, rfl⟩
  command _ _ := rfl
  plain := ⟨shape.plain, by rw [Value.plain], by rw [Value.plain]⟩
  noGeoJson shared v w hv hw := by
    constructor
    · cases hv <;> rfl
    · cases hw <;> rfl

/-! ### Both together -/

theorem Circle.eq_of_parts {shape : CenteredShape} (hcenter : c.center = shape.center)
    (hradius : c.radius = shape.radius) : c = ⟨shape⟩ := by
  obtain ⟨⟨p, d⟩⟩ := c
  obtain rfl : p = shape.center := hcenter
  obtain rfl : d = shape.radius := hradius
  rfl

/-- **Circles and spheres are the same but for their class.** From every value both are read with
the same center and radius, or null from null, or both readers fail with faults of one class. Every
document is accepted as both, with the same center and radius, or as neither. A circle and a sphere
of the same center and radius are written the same, in a document, in a command and in plain form,
and neither is written in GeoJSON. The document of either is read as a circle and as a sphere, and
both times with the center and the radius that its own reader gives. -/
theorem circle_sphere_alike :
    (∀ v, SameReading (Circle.decode v) (Sphere.decode v)) ∧
    (∀ fields, SameVerdict (Circle.accept (.document fields)) (Sphere.accept (.document fields))) ∧
    (∀ (c : Circle) (s : Sphere), c.center = s.center → c.radius = s.radius → SameWriting c s) ∧
    (∀ c : Circle, c.Proper → Circle.decode (.document c.encode) = .ok (some ⟨c.restored⟩) ∧
      Sphere.decode (.document c.encode) = .ok (some ⟨c.restored⟩)) ∧
    ∀ s : Sphere, s.Proper → Sphere.decode (.document s.encode) = .ok (some ⟨s.restored⟩) ∧
      Circle.decode (.document s.encode) = .ok (some ⟨s.restored⟩) := by
  refine ⟨decode_twins, accept_twins, fun c s hcenter hradius => ?_, fun c hc => ?_, fun s hs => ?_⟩
  · rw [Circle.eq_of_parts hcenter hradius]
    exact sameWriting s.toCenteredShape
  · exact ⟨Circle.decode_encode hc, Sphere.decode_encode (s := ⟨c.toCenteredShape⟩) hc⟩
  · exact ⟨Sphere.decode_encode hs, Circle.decode_encode (c := ⟨s.toCenteredShape⟩) hs⟩

/-- A circle of five kilometers, read as a sphere from its document. -/
theorem circle_sphere_alike_kilometers :
    let shape : CenteredShape := ⟨⟨1.0, -0.0⟩, ⟨5.0, .kilometers⟩⟩
    let c : Circle := ⟨shape⟩
    let s : Sphere := ⟨shape⟩
    c.center = s.center ∧ c.radius = s.radius ∧ SameWriting c s ∧ c.Proper ∧ s.Proper ∧
      Sphere.decode (.document c.encode)
        = .ok (some ⟨⟨⟨1.0, -0.0⟩, ⟨5.0 / 6378.137 * 6378.137, .kilometers⟩⟩⟩) ∧
      Circle.decode (.document s.encode)
        = .ok (some ⟨⟨⟨1.0, -0.0⟩, ⟨5.0 / 6378.137 * 6378.137, .kilometers⟩⟩⟩) := by
  intro shape c s
  have hproper : shape.Proper := by unfold CenteredShape.Proper; decide +kernel
  obtain ⟨-, -, hwriting, hcircle, hsphere⟩ := circle_sphere_alike
  exact ⟨rfl, rfl, hwriting c s rfl rfl, hproper, hproper, (hcircle c hproper).2,
    (hsphere s hproper).2⟩

end ShapeCodec
