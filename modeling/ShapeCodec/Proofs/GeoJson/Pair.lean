/-
# The readers of a pair

A pair `[x, y]` is checked in three places: by the reader of points, by the reader of GeoJSON and
by the writer of GeoJSON, which takes a bare pair for a point. These checks are one. Every reader of
a list or tuple asks the reader of pairs or the reader of the coordinates of a point, and adds
nothing to its answer but the form in which it is given (`pairReaders`). The two answers are the
same point, an overflow both, or faults of two kinds with the same cause (`pairAnswers`).

So no pair is written that could not be read, and none is read by one reader and refused by
another (`pair_readers_agree`).

Key definitions: `PairReaders`, `SameCause`, `PairAnswers`, `NumberPair`.
Key theorems: `encodeRawPair_eq`, `pairReaders`, `pairAnswers`, `pair_readers_agree`.
-/
import ShapeCodec.Proofs.GeoJson.Grammar

namespace ShapeCodec

variable {v : Value} {items : List Value} {p : Point}

/-! ### The readers -/

/-- The readers of a value as a pair, alone, in a row and in GeoJSON, and the writer of GeoJSON, by
the answer that the first three give and the answer that the others give. -/
structure PairReaders (v : Value) (legacy dialect : Except Fault Point) : Prop where
  point : Point.decode v = legacy.map some
  ring : readRing [v] = legacy.map fun p => [p]
  points : readPoints [v] = legacy.map fun p => [p]
  geoJson : decodeGeoJson (.document (geoJsonDocument "Point" v)) =
    dialect.map fun p => .geoJson (.point p)
  document : Point.decode (.document (geoJsonDocument "Point" v)) = dialect.map some
  bare : ∀ shared, encodeGeoJson shared v = dialect.bind fun p => encodeGeoJson shared (.point p)
  wrapped : ∀ shared, encodeGeoJson shared (.geoJson v) =
    dialect.bind fun p => encodeGeoJson shared (.point p)

theorem Value.items?_eq_some : v.items? = some items ↔ v = .list items ∨ v = .tuple items := by
  cases v <;> simp [Value.items?]

theorem readRing_singleton (v : Value) :
    readRing [v] = (Point.ofRingElement v).map fun p => [p] := by
  rw [readRing_eq_mapM, mapM_singleton]

theorem readPoints_singleton (v : Value) :
    readPoints [v] = (Point.ofElement v).map fun p => [p] := by
  rw [readPoints_eq_mapM, mapM_singleton]

theorem decodeGeoJson_ofPoint (v : Value) :
    decodeGeoJson (.document (geoJsonDocument "Point" v)) =
      (Point.ofGeoJson (geoJsonDocument "Point" v)).map fun p => .geoJson (.point p) := by
  have htype : Geometry.ofFields (geoJsonDocument "Point" v) =
      (Point.ofGeoJson (geoJsonDocument "Point" v)).map Geometry.point := rfl
  rw [decodeGeoJson, Geometry.decode, htype]
  cases Point.ofGeoJson (geoJsonDocument "Point" v) <;> rfl

/-- A raw pair is written as the point that is read where it stands for the coordinates. -/
theorem encodeRawPair_eq (h : v.items? = some items) :
    encodeRawPair items = (Point.ofGeoJson (geoJsonDocument "Point" v)).map fun p =>
      geoJsonDocument "Point" p.pair := by
  rw [Point.ofGeoJson, coordinateItems?_geoJsonDocument, h]
  rcases items with _ | ⟨x, _ | ⟨y, _ | ⟨z, rest⟩⟩⟩
  · rfl
  · rfl
  · dsimp only [encodeRawPair]
    cases Point.ofCoordinates x y <;> rfl
  · rfl

/-- **All readers of a list or tuple give one of two answers.** -/
theorem pairReaders (h : v.items? = some items) :
    PairReaders v (Point.ofPair v) (Point.ofGeoJson (geoJsonDocument "Point" v)) := by
  have hwritten : ∀ shared, (encodeRawPair items).map some =
      (Point.ofGeoJson (geoJsonDocument "Point" v)).bind fun p => encodeGeoJson shared (.point p) := by
    intro shared
    rw [encodeRawPair_eq h]
    cases Point.ofGeoJson (geoJsonDocument "Point" v) <;> rfl
  have hgeoJson := decodeGeoJson_ofPoint v
  have hring := readRing_singleton v
  have hpoints := readPoints_singleton v
  rcases Value.items?_eq_some.mp h with rfl | rfl
  · exact ⟨rfl, hring, hpoints, hgeoJson, rfl, hwritten, hwritten⟩
  · exact ⟨rfl, hring, hpoints, hgeoJson, rfl, hwritten, hwritten⟩

/-! ### The answers -/

/-- The two kinds of fault that a pair can be refused with, for the same cause. -/
inductive SameCause : Fault → Fault → Prop
  | notAPair : SameCause (.malformedShape .notAPair) (.unusableArgument .notAPair)
  | invalid (complaints : List Complaint) :
    SameCause (.malformedShape (.invalid "point" complaints))
      (.unusableArgument (.invalid "GeoJson point" complaints))

/-- Two answers to a pair: the same point, an overflow both, or a refusal with the same cause. -/
inductive PairAnswers : Except Fault Point → Except Fault Point → Prop
  | point (p : Point) : PairAnswers (.ok p) (.ok p)
  | overflow : PairAnswers (.error .overflow) (.error .overflow)
  | refused {e e' : Fault} (h : SameCause e e') : PairAnswers (.error e) (.error e')

theorem Verdict.pairAnswers (r : Verdict Point) :
    PairAnswers (r.orMalformed "point") (r.orUnusable "GeoJson point") := by
  cases r with
  | accepted p => exact .point p
  | refused complaints => exact .refused (.invalid complaints)
  | overflow => exact .overflow

/-- **The two answers agree.** -/
theorem pairAnswers (h : v.items? = some items) :
    PairAnswers (Point.ofPair v) (Point.ofGeoJson (geoJsonDocument "Point" v)) := by
  rw [Point.ofPair, Point.ofGeoJson, coordinateItems?_geoJsonDocument, h]
  rcases items with _ | ⟨x, _ | ⟨y, _ | ⟨z, rest⟩⟩⟩
  · exact .refused .notAPair
  · exact .refused .notAPair
  · exact (Point.ofCoordinates x y).pairAnswers
  · exact .refused .notAPair

/-! ### Pairs of numbers -/

/-- A pair of numbers and the point that it is for. -/
def NumberPair (items : List Value) (p : Point) : Prop :=
  ∃ x y, items = [x, y] ∧ x.WidensTo p.x ∧ y.WidensTo p.y

theorem Point.standsAt_numberPair {at? : Value → Value → Prop}
    (hat : ∀ x y, at? x y ↔ items = [x, y]) : p.StandsAt at? ↔ NumberPair items p := by
  simp only [Point.StandsAt, NumberPair, hat, Value.denotes_iff]

theorem Point.ofPair_numberPair (h : v.items? = some items) :
    Point.ofPair v = .ok p ↔ NumberPair items p := by
  rw [Point.ofPair_eq_ok]
  exact Point.standsAt_numberPair (by simp [PairOf, h])

theorem Point.ofGeoJson_numberPair (h : v.items? = some items) :
    Point.ofGeoJson (geoJsonDocument "Point" v) = .ok p ↔ NumberPair items p := by
  rw [Point.ofGeoJson_eq_ok]
  exact Point.standsAt_numberPair (by simp [GeoJsonPairOf, coordinateItems?_geoJsonDocument, h])

/-- A raw pair is written if it is one of numbers, and as the point that it is for. -/
theorem encodeRawPair_eq_ok {d : Document} :
    encodeRawPair items = .ok d ↔ ∃ p, NumberPair items p ∧ geoJsonDocument "Point" p.pair = d := by
  have h : (Value.list items).items? = some items := rfl
  rw [encodeRawPair_eq h, map_eq_ok]
  simp only [Point.ofGeoJson_numberPair h]

/-! ### Agreement -/

theorem PairReaders.numberPair {dialect : Except Fault Point} (h : v.items? = some items)
    (hreaders : PairReaders v (.ok p) dialect) : NumberPair items p := by
  have hpoint : (Point.ofPair v).map some = .ok (some p) :=
    (pairReaders h).point.symm.trans hreaders.point
  obtain ⟨q, hq, heq⟩ := map_eq_ok.mp hpoint
  obtain rfl := Option.some.inj heq
  exact (Point.ofPair_numberPair h).mp hq

theorem PairReaders.agree {legacy dialect : Except Fault Point}
    (hreaders : PairReaders v legacy dialect) (hanswers : PairAnswers legacy dialect) :
    (∃ p, PairReaders v (.ok p) (.ok p)) ∨ PairReaders v (.error .overflow) (.error .overflow) ∨
      ∃ e e', PairReaders v (.error e) (.error e') ∧ SameCause e e' := by
  cases hanswers with
  | point p => exact Or.inl ⟨p, hreaders⟩
  | overflow => exact Or.inr (Or.inl hreaders)
  | refused hcause => exact Or.inr (Or.inr ⟨_, _, hreaders, hcause⟩)

/-- **All readers of a pair agree.** On a list or tuple, of any length and with any elements, all
succeed or all fail. All succeed, and with one and the same point, exactly if it has two elements,
both numbers that doubles can stand for; the point is the one of these doubles, and what is written
of the pair is what is written of it. Else all overflow, or each refuses the value with its own kind
of fault and for the same cause. -/
theorem pair_readers_agree (h : v.items? = some items) :
    (∀ p, PairReaders v (.ok p) (.ok p) ↔ NumberPair items p) ∧
    ((∃ p, PairReaders v (.ok p) (.ok p)) ∨ PairReaders v (.error .overflow) (.error .overflow) ∨
      ∃ e e', PairReaders v (.error e) (.error e') ∧ SameCause e e') := by
  refine ⟨fun p => ⟨PairReaders.numberPair h, fun hp => ?_⟩, (pairReaders h).agree (pairAnswers h)⟩
  have hreaders := pairReaders h
  rwa [(Point.ofPair_numberPair h).mpr hp, (Point.ofGeoJson_numberPair h).mpr hp] at hreaders

/-- A tuple of a whole number and a double is read and written by all, and a list of a truth value
and a whole number by none. -/
theorem pair_readers_agree_mixed :
    let v : Value := .tuple [.int 1, .float 2.5]
    let u : Value := .list [.bool true, .int 0]
    let p : Point := ⟨Float.ofInt 1, 2.5⟩
    v.items? = some [.int 1, .float 2.5] ∧ PairReaders v (.ok p) (.ok p) ∧
      u.items? = some [.bool true, .int 0] ∧ ∀ q, ¬ PairReaders u (.ok q) (.ok q) := by
  intro v u p
  have hfinite : (Float.ofInt 1).isFinite = true := by decide +kernel
  refine ⟨rfl, ?_, rfl, fun q hq => ?_⟩
  · exact ((pair_readers_agree rfl).1 p).mpr ⟨_, _, rfl, .int hfinite, .float 2.5⟩
  · obtain ⟨x, y, hitems, hx, -⟩ := ((pair_readers_agree rfl).1 q).mp hq
    obtain ⟨rfl, -⟩ := List.cons.inj hitems
    cases hx

end ShapeCodec
