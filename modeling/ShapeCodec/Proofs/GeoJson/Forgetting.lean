/-
# What GeoJSON forgets of a polygon

In GeoJSON an open polygon is led back to its first point. Whether it was open cannot be seen of
the document: a polygon that ends with its first point is written the very same. This is all that
is forgotten. The numbers of a pair are those of its point and no pair is dropped, so a document
tells the closed walk it was written from (`sharesDocument_iff_closed`), and a closed walk is that
of one closed polygon and of at most one open polygon (`Polygon.closed_eq_iff`).

Documents are the same here if they are identical: the two zeros, which compare equal where it is
told whether a walk is closed, make two documents. A first point that holds what is no number is
left out, since a walk that is led back to it can stay open. For all others it makes no difference
which coordinates the ends of a walk share (`Polygon.Rooted.closed_iff_apart`).

Key definitions: `Polygon.Rooted`, `Polygon.LedBack`, `SharesDocument`.
Key theorems: `sharesDocument_iff_closed`, `Polygon.closed_eq_iff`, `sharesDocument_iff`.
-/
import ShapeCodec.Proofs.GeoJson.NormalForm

namespace ShapeCodec

variable {p q r : Polygon} {s t u : Sharing}

/-- A polygon whose first point is equal to itself, so that neither coordinate of it is what is no
number. -/
def Polygon.Rooted (q : Polygon) : Prop := ∃ first, q.points.head? = some first ∧ first == first

/-- An open polygon, and the polygon of the same points with the first of them once more at the
end. -/
def Polygon.LedBack (p q : Polygon) : Prop :=
  ¬ p.Closed .none ∧ ∃ first, p.points.head? = some first ∧ q.points = p.points ++ [first]

/-- Two polygons, the ends of each of which share some coordinates, are written as one GeoJSON
document. -/
def SharesDocument (s t : Sharing) (p q : Polygon) : Prop :=
  ∃ d, encodeGeoJson s (.polygon p) = .ok (some d) ∧ encodeGeoJson t (.polygon q) = .ok (some d)

theorem Polygon.Rooted.closed_eq_apart (h : q.Rooted) : q.closed s = q.closed .none := by
  obtain ⟨first, hfirst, hself⟩ := h
  exact Polygon.closed_eq_apart hfirst hself

theorem Polygon.Rooted.closed_iff_apart (h : q.Rooted) : q.Closed s ↔ q.Closed .none := by
  obtain ⟨first, hfirst, hself⟩ := h
  exact Polygon.closed_iff_apart hfirst hself

theorem Polygon.Rooted.bounded (h : q.Rooted) : q.Bounded := by
  obtain ⟨first, hfirst, -⟩ := h
  exact Polygon.bounded_iff_head.mpr ⟨first, hfirst⟩

/-! ### Documents and walks -/

theorem Point.pair_injective : Function.Injective Point.pair := by
  rintro ⟨x, y⟩ ⟨x', y'⟩ h
  simpa [Point.pair] using h

theorem ringCoordinates_injective : Function.Injective ringCoordinates := by
  intro ring other h
  have hpairs : ring.map Point.pair = other.map Point.pair := by simpa [ringCoordinates] using h
  exact Point.pair_injective.list_map hpairs

/-- The document tells the closed walk, and nothing else. -/
theorem sharesDocument_iff_closed (hp : p.Bounded) (hq : q.Bounded) :
    SharesDocument s t p q ↔ p.closed s = q.closed t := by
  obtain ⟨ring, hring⟩ : ∃ ring, p.closed s = some ring := Polygon.exists_closed hp
  obtain ⟨other, hother⟩ : ∃ other, q.closed t = some other := Polygon.exists_closed hq
  have hwritten := encodeGeoJson_polygon .bare hring
  have hwritten' := encodeGeoJson_polygon .bare hother
  rw [hring, hother, Option.some_inj]
  constructor
  · rintro ⟨d, hd, hd'⟩
    have hdocument : geoJsonDocument "Polygon" (ringCoordinates ring)
        = geoJsonDocument "Polygon" (ringCoordinates other) := by
      simpa [hwritten, hwritten'] using hd.trans hd'.symm
    have hcoordinates : ringCoordinates ring = ringCoordinates other := by
      simpa [geoJsonDocument] using hdocument
    exact ringCoordinates_injective hcoordinates
  · rintro rfl
    exact ⟨_, hwritten, hwritten'⟩

/-! ### Open and closed polygons -/

theorem Polygon.LedBack.walk (h : p.LedBack q) : p.closed .none = some q.points := by
  obtain ⟨hopen, first, hfirst, hpoints⟩ := h
  rw [Polygon.closed_eq_append hfirst hopen, hpoints]

theorem Polygon.LedBack.closed (hp : p.Rooted) (h : p.LedBack q) : q.Closed t := by
  obtain ⟨first, hfirst, hself⟩ := hp
  obtain ⟨hhead, last, hlast, heq⟩ := Polygon.closed_ends hfirst hself h.walk
  exact Or.inr ⟨first, last, hhead, hlast, Point.meets_of_beq heq⟩

theorem Polygon.LedBack.closed_eq (hp : p.Rooted) (h : p.LedBack q) :
    p.closed .none = q.closed .none := by
  obtain ⟨first, hfirst, hself⟩ := hp
  rw [h.walk]
  exact (Polygon.closed_closed hfirst hself h.walk .none).symm

/-- The closed walk tells the polygon, up to whether the way back was its own. -/
theorem Polygon.closed_eq_iff (hp : p.Rooted) (hq : q.Rooted) :
    p.closed .none = q.closed .none ↔ p = q ∨ p.LedBack q ∨ q.LedBack p := by
  obtain ⟨first, hfirst, -⟩ := id hp
  obtain ⟨first', hfirst', -⟩ := id hq
  obtain ⟨ring, hring⟩ : ∃ ring, p.closed .none = some ring := Polygon.exists_closed hp.bounded
  constructor
  · intro h
    have hring' : q.closed .none = some ring := h.symm.trans hring
    -- of either polygon the walk is its points, or its points and a last one that can be cancelled
    rcases Polygon.closed_cases hfirst hring with ⟨-, hwalk⟩ | ⟨hopen, hwalk⟩ <;>
      rcases Polygon.closed_cases hfirst' hring' with ⟨-, hwalk'⟩ | ⟨hopen', hwalk'⟩
    · exact Or.inl (congrArg Polygon.mk (hwalk.symm.trans hwalk'))
    · exact Or.inr (Or.inr ⟨hopen', first', hfirst', hwalk.symm.trans hwalk'⟩)
    · exact Or.inr (Or.inl ⟨hopen, first, hfirst, hwalk'.symm.trans hwalk⟩)
    · have happend : p.points ++ [first] = q.points ++ [first'] := hwalk.symm.trans hwalk'
      exact Or.inl (congrArg Polygon.mk (List.append_inj_left' happend rfl))
  · rintro (rfl | h | h)
    · rfl
    · exact h.closed_eq hp
    · exact (h.closed_eq hq).symm

theorem SharesDocument.trans (h : SharesDocument s t p q) (h' : SharesDocument t u q r) :
    SharesDocument s u p r := by
  obtain ⟨d, hp, hq⟩ := h
  obtain ⟨d', hq', hr⟩ := h'
  obtain rfl : d = d' := by simpa [hq] using hq'
  exact ⟨d, hp, hr⟩

theorem sharesDocument_iff_ledBack (hp : p.Rooted) (hq : q.Rooted) :
    SharesDocument s t p q ↔ p = q ∨ p.LedBack q ∨ q.LedBack p := by
  rw [sharesDocument_iff_closed hp.bounded hq.bounded, hp.closed_eq_apart, hq.closed_eq_apart]
  exact Polygon.closed_eq_iff hp hq

/-- Two polygons of one document are the same if both are open or both are closed. -/
theorem SharesDocument.eq_of_closed_iff (h : SharesDocument s t p q) (hp : p.Rooted) (hq : q.Rooted)
    (hsame : p.Closed s ↔ q.Closed t) : p = q := by
  rw [hp.closed_iff_apart, hq.closed_iff_apart] at hsame
  rcases (sharesDocument_iff_ledBack hp hq).mp h with heq | hback | hback
  · exact heq
  · exact absurd (hsame.mpr (hback.closed hp)) hback.1
  · exact absurd (hsame.mp (hback.closed hq)) hback.1

/-- A single point is the walk of no other polygon, not even of the two points of its way back. -/
theorem SharesDocument.eq_of_single (h : SharesDocument s t p q) (hp : p.Rooted) (hq : q.Rooted)
    (hsingle : p.points.length = 1) : p = q := by
  rcases (sharesDocument_iff_ledBack hp hq).mp h with heq | hback | hback
  · exact heq
  · exact absurd (Or.inl hsingle) hback.1
  · obtain ⟨-, first, -, hpoints⟩ := hback
    have hempty : q.points.length = 0 := by
      rw [hpoints, List.length_append, List.length_singleton] at hsingle
      omega
    exact absurd (List.length_eq_zero_iff.mp hempty) hq.bounded

/-- **GeoJSON forgets of a polygon whether it ended with its first point, and nothing else.** Two
polygons whose first points are equal to themselves are written as the identical document exactly if
they are the same, or one is open and the other is the same walk led back to its first point. So two
open polygons are told apart, and two closed ones; a polygon of one point is told from every other;
and of three polygons that share a document two are the same. It is all the same which coordinates
their ends share. -/
theorem sharesDocument_iff (hp : p.Rooted) (hq : q.Rooted) (s t : Sharing) :
    (SharesDocument s t p q ↔ p = q ∨ p.LedBack q ∨ q.LedBack p) ∧
    ((p.Closed s ↔ q.Closed t) → SharesDocument s t p q → p = q) ∧
    (p.points.length = 1 → SharesDocument s t p q → p = q) ∧
    ∀ (r : Polygon) (u : Sharing), r.Rooted → SharesDocument s t p q → SharesDocument t u q r →
      p = q ∨ q = r ∨ p = r := by
  refine ⟨sharesDocument_iff_ledBack hp hq, fun hsame h => h.eq_of_closed_iff hp hq hsame,
    fun hsingle h => h.eq_of_single hp hq hsingle, fun r u hr h h' => ?_⟩
  -- of three polygons two are both open or both closed
  have hthree : (p.Closed s ↔ q.Closed t) ∨ (q.Closed t ↔ r.Closed u) ∨
      (p.Closed s ↔ r.Closed u) := by grind
  rcases hthree with hsame | hsame | hsame
  · exact Or.inl (h.eq_of_closed_iff hp hq hsame)
  · exact Or.inr (Or.inl (h'.eq_of_closed_iff hq hr hsame))
  · exact Or.inr (Or.inr ((h.trans h').eq_of_closed_iff hp hr hsame))

/-- An open polygon shares its document with the one that is led back to its first point. One that
ends with the other zero is closed too, and has a document of its own. -/
theorem sharesDocument_iff_zeros :
    let first : Point := ⟨0.0, 2.0⟩
    let p : Polygon := ⟨[first, ⟨1.0, 1.0⟩]⟩
    let q : Polygon := ⟨[first, ⟨1.0, 1.0⟩, first]⟩
    let r : Polygon := ⟨[first, ⟨1.0, 1.0⟩, ⟨-0.0, 2.0⟩]⟩
    (p.Rooted ∧ q.Rooted ∧ r.Rooted) ∧ p.LedBack q ∧ SharesDocument .none .all p q ∧
      (q.Closed .all ↔ r.Closed .none) ∧ ¬ SharesDocument .all .none q r := by
  intro first p q r
  have hself : (first == first) = true := by decide +kernel
  have hp : p.Rooted := ⟨first, rfl, hself⟩
  have hq : q.Rooted := ⟨first, rfl, hself⟩
  have hr : r.Rooted := ⟨first, rfl, hself⟩
  have hopen : ¬ p.Closed .none := by
    rw [← endsAt_iff]
    decide +kernel
  have hback : p.LedBack q := ⟨hopen, first, rfl, rfl⟩
  have hzeros : r.Closed .none := Or.inr ⟨first, ⟨-0.0, 2.0⟩, rfl, rfl, by decide +kernel⟩
  have hsame : q.Closed .all ↔ r.Closed .none := iff_of_true (hback.closed hp) hzeros
  have hdiffer : (0.0 : Float) ≠ -0.0 := by decide +kernel
  refine ⟨⟨hp, hq, hr⟩, hback, (sharesDocument_iff hp hq .none .all).1.mpr (Or.inr (Or.inl hback)),
    hsame, ?_⟩
  intro h
  have hqr : q = r := (sharesDocument_iff hq hr .all .none).2.1 hsame h
  have hlast : first = ⟨-0.0, 2.0⟩ := by simpa [q, r] using hqr
  exact hdiffer (congrArg Point.x hlast)

end ShapeCodec
