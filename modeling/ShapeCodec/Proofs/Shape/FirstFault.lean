/-
# The first fault of a row

A row of points is read element by element, and the first element that is no point ends it. So of
two rows, one after the other, the second counts only where the first is read, and the fault of a
row is the one that the first element not read gives in a row of its own, however many points stand
before it and whatever comes after it (`ReadsInOrder`, `ReadsInOrder.eq_error_iff`).

A document gives the fault of its row as it is. Whether a row has points at all, and whether a ring
has enough of them for a box, is asked only after all of it was read, and what turns complaints
about a polygon into faults never sees the fault of an element (`rows_first_fault`).

Key definitions: `inTurn`, `ReadsInOrder`, `FirstFault`.
Key theorems: `readsInOrder_mapM`, `ReadsInOrder.eq_error_iff`, `rows_first_fault`.
-/
import ShapeCodec.Proofs.Shape.Delegation

namespace ShapeCodec

variable {elements : List Value} {e : Fault} {element : Value → Except Fault Point}
  {read : List Value → Except Fault (List Point)}

/-! ### Reading in order -/

/-- What two rows give that are read in turn: the fault of the first, or else the fault of the
second, or else the points of both. -/
def inTurn : Except Fault (List Point) → Except Fault (List Point) → Except Fault (List Point)
  | .error e, _ => .error e
  | .ok _, .error e => .error e
  | .ok points, .ok others => .ok (points ++ others)

/-- A reader of rows that goes by the given reader of elements, from the first element to the
last. -/
structure ReadsInOrder (element : Value → Except Fault Point)
    (read : List Value → Except Fault (List Point)) : Prop where
  empty : read [] = .ok []
  single : ∀ v, read [v] = (element v).map fun p => [p]
  append : ∀ xs ys, read (xs ++ ys) = inTurn (read xs) (read ys)

/-- A fault and the element of a row that it comes from: all elements before this one are read, and
the fault is what it gives in a row of its own. -/
def FirstFault (read : List Value → Except Fault (List Point)) (elements : List Value)
    (e : Fault) : Prop :=
  ∃ before v after, elements = before ++ v :: after ∧ (∀ u ∈ before, ∃ p, read [u] = .ok [p]) ∧
    read [v] = .error e

theorem inTurn_eq (r s : Except Fault (List Point)) : inTurn r s = (do
    let points ← r
    let others ← s
    return points ++ others) := by
  cases r with
  | error e => rfl
  | ok points => cases s <;> rfl

theorem inTurn_eq_error {r s : Except Fault (List Point)} :
    inTurn r s = .error e ↔ r = .error e ∨ (∃ points, r = .ok points) ∧ s = .error e := by
  cases r with
  | error f => simp [inTurn]
  | ok points => cases s <;> simp [inTurn]

theorem not_firstFault_nil : ¬ FirstFault read [] e := not_reaches_nil

/-- The first fault of a row is that of its first element, or stands behind one that is read. -/
theorem firstFault_cons {v : Value} {rest : List Value} : FirstFault read (v :: rest) e ↔
    read [v] = .error e ∨ (∃ p, read [v] = .ok [p]) ∧ FirstFault read rest e :=
  reaches_cons

/-- Reading one element after the other is reading in order. -/
theorem readsInOrder_mapM (element : Value → Except Fault Point) :
    ReadsInOrder element (List.mapM element) where
  empty := rfl
  single := mapM_singleton element
  append xs ys := by rw [List.mapM_append, inTurn_eq]

namespace ReadsInOrder

theorem cons (h : ReadsInOrder element read) (v : Value) (rest : List Value) :
    read (v :: rest) = inTurn (read [v]) (read rest) :=
  h.append [v] rest

theorem single_isOk (h : ReadsInOrder element read) (v : Value) :
    (∃ points, read [v] = .ok points) ↔ ∃ p, read [v] = .ok [p] := by
  rw [h.single]
  cases element v <;> simp [Except.map]

/-- **A row fails as its first element that is not read does alone**, and not otherwise. -/
theorem eq_error_iff (h : ReadsInOrder element read) :
    read elements = .error e ↔ FirstFault read elements e := by
  induction elements with
  | nil =>
    rw [h.empty]
    exact iff_of_false nofun not_firstFault_nil
  | cons v rest ih =>
    calc read (v :: rest) = .error e
        ↔ inTurn (read [v]) (read rest) = .error e := by rw [h.cons]
      _ ↔ read [v] = .error e ∨ (∃ points, read [v] = .ok points) ∧ read rest = .error e :=
        inTurn_eq_error
      _ ↔ read [v] = .error e ∨ (∃ p, read [v] = .ok [p]) ∧ FirstFault read rest e := by
        rw [h.single_isOk, ih]
      _ ↔ FirstFault read (v :: rest) e := firstFault_cons.symm

end ReadsInOrder

theorem readPoints_inOrder : ReadsInOrder Point.ofElement readPoints := by
  rw [funext readPoints_eq_mapM]
  exact readsInOrder_mapM Point.ofElement

theorem readRing_inOrder : ReadsInOrder Point.ofRingElement readRing := by
  rw [funext readRing_eq_mapM]
  exact readsInOrder_mapM Point.ofRingElement

/-! ### Documents of a row -/

/-- **A row stops at its first fault, and so do the readers of documents with a row in them.** Both
readers of rows go from element to element. If all elements of a row up to one are read, and this
one is not, then the fault that it gives in a row of its own is the fault of the document, whatever
comes after it: of a polygon by its points, and of a polygon, a box and a GeoJSON value by their
ring. -/
theorem rows_first_fault :
    (ReadsInOrder Point.ofElement readPoints ∧ ReadsInOrder Point.ofRingElement readRing) ∧
    (∀ fields elements e, ¬ OfType fields "Polygon" → PointsRow fields elements →
      FirstFault readPoints elements e → Polygon.decode (.document fields) = .error e) ∧
    ∀ fields elements e, OfType fields "Polygon" → FirstRing fields elements →
      FirstFault readRing elements e →
        Polygon.decode (.document fields) = .error e ∧ Box.decode (.document fields) = .error e ∧
          decodeGeoJson (.document fields) = .error e := by
  refine ⟨⟨readPoints_inOrder, readRing_inOrder⟩, ?_, ?_⟩
  · intro fields elements e htype hrow hfault
    have hread : readPoints elements = .error e := readPoints_inOrder.eq_error_iff.mpr hfault
    rw [Polygon.decode, Polygon.ofDocument, hasType_of_not htype, Polygon.ofPointsField_ofRow hrow,
      hread]
    rfl
  · intro fields elements e htype hring hfault
    have hread : Polygon.ofGeoJson fields = .error e := by
      rw [Polygon.ofGeoJson_ofRing hring, readRing_inOrder.eq_error_iff.mpr hfault]
      rfl
    rw [Polygon.decode_ofRing htype, Box.decode_ofRing htype, decodeGeoJson_ofType_polygon htype,
      hread]
    exact ⟨rfl, rfl, rfl⟩

/-- A document of type `Point` without a pair, after two points and before null, which is never
met. In a ring the same goes for a pair past every double. -/
theorem rows_first_fault_typed :
    let p : Point := ⟨1.0, -0.0⟩
    let typed : Value := .document (geoJsonDocument "Point" (.list []))
    let large : Value := .list [.int (10 ^ 400), .text "y"]
    let row : List Value := [p.pair, .document p.encode, typed, .null]
    let ring : List Value := [p.pair, large, .null]
    let legacy : Document := [("points", .tuple row)]
    let dialect : Document := geoJsonDocument "Polygon" (.list [.list ring, .null])
    FirstFault readPoints row (.unusableArgument .notAPair) ∧
      Polygon.decode (.document legacy) = .error (.unusableArgument .notAPair) ∧
      FirstFault readRing ring .overflow ∧ Polygon.decode (.document dialect) = .error .overflow ∧
      Box.decode (.document dialect) = .error .overflow ∧
      decodeGeoJson (.document dialect) = .error .overflow := by
  intro p typed large row ring legacy dialect
  obtain ⟨-, hpoints, hring⟩ := rows_first_fault
  have htyped : FirstFault readPoints row (.unusableArgument .notAPair) := by
    refine ⟨[p.pair, .document p.encode], typed, [.null], rfl, ?_, rfl⟩
    simp [readPoints_inOrder.single, Except.map]
  have hlarge : FirstFault readRing ring .overflow := by
    refine ⟨[p.pair], large, [.null], rfl, by simp [readRing_inOrder.single, Except.map], ?_⟩
    rw [(readRing_reads [large]).overflow_iff]
    exact ⟨[], large, [], rfl, by simp,
      .int (10 ^ 400), .text "y", Or.inl rfl, Or.inl ⟨10 ^ 400, rfl, by decide +kernel⟩⟩
  have huntyped : ¬ OfType legacy "Polygon" := by simp [OfType, legacy, List.lookup_cons]
  have hfirst : FirstRing dialect ring := ⟨.list ring, [.null], rfl, rfl⟩
  exact ⟨htyped, hpoints legacy row _ huntyped rfl htyped, hlarge,
    hring dialect ring _ rfl hfirst hlarge⟩

end ShapeCodec
