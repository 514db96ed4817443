/-
# Equal shapes are written equal

Two shapes of one kind can be equal without being the same: their zeros may have different signs.
Equal shapes have equal documents all the same, in every dialect and with every writer
(`written_equal`). Each writer puts numbers where they stand, so that it only has to be seen that a
number may be exchanged for an equal one, and in two places this takes more. A radius is divided by
the multiplier of its metric, which keeps it equal to what it was equal to (`Double.div_beq`). And a
polygon is led back to its first point or not according to a comparison of its own first and last
point. That comparison comes out the same for an equal polygon, whichever zeros are exchanged in it,
because equality of points is symmetric and transitive (`endsAt_beq`). Equal polygons hold numbers
only, so that it does not matter either what their ends share. So the rings of equal polygons are of
one length.

For points, boxes and polygons the legacy document tells as much as the shape, and equal documents
come from equal shapes. For circles and spheres it does not: two radii may be the same in radians.

Key definitions: `EqualDocuments`, `WrittenEqual`, `WalkedAlike`.
Key theorems: `Value.equal_fields`, `Polygon.encode_equal`, `endsAt_beq`, `Polygon.walkedAlike`,
`Polygon.writtenEqual`, `written_equal`.
-/
import ShapeCodec.Command
import ShapeCodec.Proofs.Double.Finite
import ShapeCodec.Proofs.GeoJson.NormalForm
import ShapeCodec.Proofs.Shape.Failure
import ShapeCodec.Shape.Kind
import ShapeCodec.Value.Equality

namespace ShapeCodec

variable {v w : Value} {d e : Document} {s t : Sharing}

/-! ### Numbers and points -/

instance : PartialEquivBEq Point where
  symm {p q} h := by
    rw [Point.beq_iff, ← beq_iff_coincide, ← beq_iff_coincide] at h ⊢
    exact ⟨BEq.symm h.1, BEq.symm h.2⟩
  trans {p q r} h h' := by
    rw [Point.beq_iff, ← beq_iff_coincide, ← beq_iff_coincide] at h h' ⊢
    exact ⟨BEq.trans h.1 h'.1, BEq.trans h.2 h'.2⟩

/-- Equal numbers have equal quotients by a multiplier. -/
theorem Double.div_beq {x y : Float} (h : x == y) (m : Metric) :
    x / m.multiplier == y / m.multiplier := by
  obtain ⟨hx, rfl | ⟨rfl, rfl⟩ | ⟨rfl, rfl⟩⟩ := beq_iff_coincide.mp h
  · have hquotient : (x / m.multiplier).isNaN = false :=
      Double.div_isNaN (Bool.not_eq_true _ ▸ hx) m
    exact beq_iff_coincide.mpr ⟨Bool.not_eq_true _ ▸ hquotient, Or.inl rfl⟩
  -- a zero of either sign stays one, whatever it is divided by
  · cases m <;> decide +kernel
  · cases m <;> decide +kernel

theorem Box.beq_iff {a b : Box} : a == b ↔ a.first == b.first ∧ a.second == b.second := by
  exact Bool.and_eq_true _ _ ▸ Iff.rfl

theorem CenteredShape.beq_iff {s t : CenteredShape} :
    s == t ↔ s.center == t.center ∧ s.radius == t.radius := by
  exact Bool.and_eq_true _ _ ▸ Iff.rfl

theorem Distance.beq_iff {r s : Distance} : r == s ↔ r.value == s.value ∧ r.metric = s.metric := by
  rw [← beq_iff_eq (a := r.metric)]
  exact Bool.and_eq_true _ _ ▸ Iff.rfl

theorem Distance.normalized_beq {r s : Distance} (h : r == s) : r.normalized == s.normalized := by
  obtain ⟨hvalue, hmetric⟩ := Distance.beq_iff.mp h
  rw [Distance.normalized, Distance.normalized, hmetric]
  exact Double.div_beq hvalue s.metric

/-! ### Documents -/

/-- Documents that compare equal. -/
def EqualDocuments (d e : Document) : Prop := (Value.document d).equal (.document e) = true

/-- A field that is not asked for makes no difference. -/
theorem Value.equalFields_cons {name : String} : ∀ {fields : Document}, name ∉ fields.map Prod.fst →
    Value.equalFields fields ((name, w) :: e) = Value.equalFields fields e
  | [], _ => rfl
  | (k, v) :: rest, h => by
    rw [List.map_cons, List.mem_cons, not_or] at h
    have hk : (k == name) = false := beq_eq_false_iff_ne.mpr (Ne.symm h.1)
    rw [Value.equalFields, Value.equalFields, List.lookup_cons, hk, Value.equalFields_cons h.2]

theorem Value.equalFields_same : ∀ {d e : Document}, (d.map Prod.fst).Nodup →
    e.map Prod.fst = d.map Prod.fst →
    Value.equalFields d e = Value.equalItems (d.map Prod.snd) (e.map Prod.snd)
  | [], [], _, _ => rfl
  | (name, v) :: rest, (name', w) :: rest', hnames, hsame => by
    rw [List.map_cons, List.nodup_cons] at hnames
    obtain ⟨rfl, hrest⟩ := List.cons.inj hsame
    rw [Value.equalFields, List.lookup_cons_self, Value.equalFields_cons hnames.1,
      Value.equalFields_same hnames.2 hrest]
    rfl

/-- Documents of the same names in the same order compare as the rows of their values. -/
theorem Value.equal_fields (d e : Document) (names : List String) (hnames : names.Nodup)
    (hd : d.map Prod.fst = names) (he : e.map Prod.fst = names) :
    (Value.document d).equal (.document e) =
      Value.equalItems (d.map Prod.snd) (e.map Prod.snd) := by
  have hsame : e.map Prod.fst = d.map Prod.fst := he.trans hd.symm
  have hlength : d.length = e.length := by simpa using (congrArg List.length hsame).symm
  rw [Value.equal, Value.equalFields_same (hd ▸ hnames) hsame, hlength, beq_self_eq_true,
    Bool.true_and]

/-- Rows of points compare as their documents or pairs do. -/
theorem Value.equalItems_map {f : Point → Value} (hf : ∀ p q, (f p).equal (f q) = (p == q)) :
    ∀ ps qs : List Point, Value.equalItems (ps.map f) (qs.map f) = (ps == qs)
  | [], [] => rfl
  | [], _ :: _ => rfl
  | _ :: _, [] => rfl
  | p :: ps, q :: qs => by
    rw [List.map_cons, List.map_cons, Value.equalItems, hf, Value.equalItems_map hf ps qs,
      List.cons_beq_cons]

theorem Point.encode_equal (p q : Point) :
    (Value.document p.encode).equal (.document q.encode) = (p == q) := by
  rw [Value.equal_fields p.encode q.encode ["x", "y"] (by decide) rfl rfl]
  simp [Point.encode, Value.equal, Value.equalItems, Value.equalScalars, BEq.beq]

theorem Box.encode_equal (a b : Box) :
    (Value.document a.encode).equal (.document b.encode) = (a == b) := by
  rw [Value.equal_fields a.encode b.encode ["first", "second"] (by decide) rfl rfl]
  simp only [Box.encode, List.map_cons, List.map_nil, Value.equalItems, Point.encode_equal,
    Bool.and_true]
  rfl

theorem Polygon.encode_equal (p q : Polygon) :
    (Value.document p.encode).equal (.document q.encode) = (p == q) := by
  rw [Value.equal_fields p.encode q.encode ["points"] (by decide) rfl rfl]
  simp only [Polygon.encode, List.map_cons, List.map_nil, Value.equalItems, Value.equal,
    Value.equalItems_map Point.encode_equal, Bool.and_true]
  rfl

theorem CenteredShape.encode_equal {s t : CenteredShape} (h : s == t) :
    EqualDocuments s.encode t.encode := by
  obtain ⟨hcenter, hradius⟩ := CenteredShape.beq_iff.mp h
  have hmetric : s.radius.metric = t.radius.metric := (Distance.beq_iff.mp hradius).2
  rw [EqualDocuments, Value.equal_fields s.encode t.encode ["center", "radius", "metric"]
    (by decide) rfl rfl]
  simp only [CenteredShape.encode, List.map_cons, List.map_nil, Value.equalItems,
    Point.encode_equal, hcenter, Bool.true_and, Bool.and_true]
  simp [Value.equal, Value.equalScalars, Distance.normalized_beq hradius, hmetric]

theorem geoJsonDocument_equal (type : String) (v w : Value) :
    EqualDocuments (geoJsonDocument type v) (geoJsonDocument type w) ↔ v.equal w = true := by
  rw [EqualDocuments, Value.equal_fields (geoJsonDocument type v) (geoJsonDocument type w)
    ["type", "coordinates"] (by decide) rfl rfl]
  simp [geoJsonDocument, Value.equalItems, Value.equal, Value.equalScalars]

theorem ringCoordinates_equal (ps qs : List Point) :
    (ringCoordinates ps).equal (ringCoordinates qs) = (ps == qs) := by
  simp only [ringCoordinates, Value.equal, Value.equalItems,
    Value.equalItems_map Point.pair_equal, Bool.and_true]

/-! ### Closed walks -/

section
variable {p q : Point}

/-- Equal rows have equal last points, or are empty both. -/
theorem getLast_beq : ∀ {p q : Point} {ps qs : List Point}, p == q → ps == qs →
    ps.getLast?.getD p == qs.getLast?.getD q
  | _, _, [], [], h, _ => h
  | _, _, p' :: ps, q' :: qs, _, hrows => by
    rw [List.cons_beq_cons, Bool.and_eq_true] at hrows
    rw [List.getLast?_cons, List.getLast?_cons]
    exact getLast_beq hrows.1 hrows.2

/-- What is equal to another is equal to itself. -/
theorem Point.beq_self_left (h : p == q) : p == p := BEq.trans h (BEq.symm h)

/-- **Whether a walk ends where it began is the same for an equal walk**, and whatever the ends of
either share. -/
theorem endsAt_beq (hfirst : p == q) :
    ∀ {ps qs : List Point}, ps == qs → endsAt s p ps = endsAt t q qs
  | [], [], _ => rfl
  | p' :: ps, q' :: qs, hrows => by
    rw [List.cons_beq_cons, Bool.and_eq_true] at hrows
    have hlast := getLast_beq hrows.1 hrows.2
    have hp : p == p := Point.beq_self_left hfirst
    have hq : q == q := Point.beq_self_left (BEq.symm hfirst)
    rw [endsAt, endsAt, List.getLast?_cons, List.getLast?_cons]
    simp only [Point.meets_eq_beq hp, Point.meets_eq_beq hq]
    -- the points of a walk are compared with each other, so one side is exchanged after the other
    calc (p == ps.getLast?.getD p') = (q == ps.getLast?.getD p') := BEq.congr_left hfirst
      _ = (q == qs.getLast?.getD q') := BEq.congr_right hlast

theorem concat_beq (h : p == q) : ∀ {ps qs : List Point}, ps == qs → ps ++ [p] == qs ++ [q]
  | [], [], _ => by simpa using h
  | p' :: ps, q' :: qs, hrows => by
    rw [List.cons_beq_cons, Bool.and_eq_true] at hrows
    rw [List.cons_append, List.cons_append, List.cons_beq_cons, hrows.1, Bool.true_and]
    exact concat_beq h hrows.2

end

/-- Two polygons of the same number of points that are walked along alike: both are left as they
are, or both are led back to their first points, whatever their ends share. -/
structure WalkedAlike (p q : Polygon) : Prop where
  length : p.points.length = q.points.length
  closed : ∀ s t, p.Closed s ↔ q.Closed t
  rings : ∀ s t first first' ring ring', p.points.head? = some first →
    q.points.head? = some first' → p.closed s = some ring → q.closed t = some ring' →
      ring.length = ring'.length ∧
      ((ring = p.points ∧ ring' = q.points) ∨
        (ring = p.points ++ [first] ∧ ring' = q.points ++ [first']))

theorem Polygon.beq_cons {p q : Point} {ps qs : List Point}
    (h : (⟨p :: ps⟩ : Polygon) == ⟨q :: qs⟩) : p == q ∧ ps == qs := by
  exact Bool.and_eq_true _ _ ▸ h

theorem Polygon.closed_iff_of_beq {p q : Polygon} (h : p == q) : p.Closed s ↔ q.Closed t := by
  obtain ⟨_ | ⟨first, rest⟩⟩ := p <;> obtain ⟨_ | ⟨first', rest'⟩⟩ := q
  · simp [Polygon.Closed]
  · cases h
  · cases h
  · obtain ⟨hfirst, hrest⟩ := Polygon.beq_cons h
    rw [← endsAt_iff, ← endsAt_iff, endsAt_beq hfirst hrest]

/-- The closed walks of equal polygons are equal. -/
theorem Polygon.closed_beq {p q : Polygon} (h : p == q) : p.closed s == q.closed t := by
  obtain ⟨_ | ⟨first, rest⟩⟩ := p <;> obtain ⟨_ | ⟨first', rest'⟩⟩ := q
  · rfl
  · cases h
  · cases h
  · obtain ⟨hfirst, hrest⟩ := Polygon.beq_cons h
    have hends : endsAt s first rest = endsAt t first' rest' := endsAt_beq hfirst hrest
    simp only [Polygon.closed, hends, Option.some_beq_some]
    split
    · exact h
    · exact concat_beq hfirst h

theorem Polygon.walkedAlike {p q : Polygon} (h : p == q) : WalkedAlike p q where
  length := List.length_eq_of_beq h
  closed _ _ := Polygon.closed_iff_of_beq h
  rings s t first first' ring ring' hfirst hfirst' hring hring' := by
    have hrings : some ring == some ring' := hring ▸ hring' ▸ Polygon.closed_beq h
    refine ⟨List.length_eq_of_beq hrings, ?_⟩
    rcases Polygon.closed_cases hfirst hring with ⟨hclosed, hwalk⟩ | ⟨hopen, hwalk⟩
    · rcases Polygon.closed_cases hfirst' hring' with ⟨-, hwalk'⟩ | ⟨hopen', -⟩
      · exact Or.inl ⟨hwalk, hwalk'⟩
      · exact absurd ((Polygon.closed_iff_of_beq h).mp hclosed) hopen'
    · rcases Polygon.closed_cases hfirst' hring' with ⟨hclosed', -⟩ | ⟨-, hwalk'⟩
      · exact absurd ((Polygon.closed_iff_of_beq h).mpr hclosed') hopen
      · exact Or.inr ⟨hwalk, hwalk'⟩

/-! ### Writers -/

/-- What is written of two shapes: equal legacy documents, equal GeoJSON documents or the same
fault, whatever the ends of a walk share, and under every name an equal command with the same
notices or the same fault. -/
structure WrittenEqual (v w : Value) (d e : Document) : Prop where
  legacy : EqualDocuments d e
  geoJson : ∀ s t v' w', Presents v v' → Presents w w' →
    Alike (Option.Rel EqualDocuments) Eq (encodeGeoJson s v') (encodeGeoJson t w')
  command : ∀ strict name,
    Alike (fun r t => EqualDocuments r.1 t.1 ∧ r.2 = t.2) Eq
      (GeoCommand.encode strict ⟨name, v⟩) (GeoCommand.encode strict ⟨name, w⟩)

/-- A command is written of the arguments of its shape. -/
theorem GeoCommand.encode_alike
    (h : Option.Rel (fun a b => Value.equalItems a b = true) v.arguments? w.arguments?)
    (htype : v.typeName = w.typeName) (strict : Bool) (name : String) :
    Alike (fun r t => EqualDocuments r.1 t.1 ∧ r.2 = t.2) Eq
      (GeoCommand.encode strict ⟨name, v⟩) (GeoCommand.encode strict ⟨name, w⟩) := by
  have hdocument : ∀ a b, Value.equalItems a b = true →
      EqualDocuments [(name, .list a)] [(name, .list b)] := by
    intro a b hab
    rw [EqualDocuments, Value.equal_fields _ _ [name] (List.nodup_singleton name) rfl rfl]
    simpa [Value.equalItems, Value.equal] using hab
  unfold GeoCommand.encode
  generalize hv : v.arguments? = r at h ⊢
  generalize hw : w.arguments? = t at h ⊢
  cases h with
  | some hab => exact .ok ⟨hdocument _ _ hab, rfl⟩
  | none =>
    simp only [htype]
    split
    · exact .error rfl
    · exact .ok ⟨hdocument [] [] rfl, rfl⟩

theorem Point.writtenEqual {p q : Point} (h : p == q) :
    WrittenEqual (.point p) (.point q) p.encode q.encode where
  legacy := (Point.encode_equal p q).trans h
  geoJson _ _ v' w' hv hw := by
    rw [encodeGeoJson_point hv, encodeGeoJson_point hw]
    exact .ok (.some ((geoJsonDocument_equal "Point" _ _).mpr ((Point.pair_equal p q).trans h)))
  command := GeoCommand.encode_alike .none rfl

theorem Box.ring_beq {a b : Box} (h : a == b) : a.ring == b.ring := by
  obtain ⟨hfirst, hsecond⟩ := Box.beq_iff.mp h
  have hfirst' := (Point.beq_iff _ _).mp hfirst
  have hsecond' := (Point.beq_iff _ _).mp hsecond
  have hcorner : (⟨a.first.x, a.second.y⟩ : Point) == ⟨b.first.x, b.second.y⟩ :=
    (Point.beq_iff _ _).mpr ⟨hfirst'.1, hsecond'.2⟩
  have hcorner' : (⟨a.second.x, a.first.y⟩ : Point) == ⟨b.second.x, b.first.y⟩ :=
    (Point.beq_iff _ _).mpr ⟨hsecond'.1, hfirst'.2⟩
  simp [Box.ring, hfirst, hsecond, hcorner, hcorner']

theorem Box.writtenEqual {a b : Box} (h : a == b) :
    WrittenEqual (.box a) (.box b) a.encode b.encode where
  legacy := (Box.encode_equal a b).trans h
  geoJson _ _ v' w' hv hw := by
    have hring := (ringCoordinates_equal a.ring b.ring).trans (Box.ring_beq h)
    rw [encodeGeoJson_box hv, encodeGeoJson_box hw]
    exact .ok (.some ((geoJsonDocument_equal "Polygon" _ _).mpr hring))
  command := by
    obtain ⟨hfirst, hsecond⟩ := Box.beq_iff.mp h
    refine GeoCommand.encode_alike (.some ?_) rfl
    simp [Value.equalItems, Point.pair_equal, hfirst, hsecond]

theorem encodeGeoJson_presents {p : Polygon} (h : Presents (.polygon p) v) :
    encodeGeoJson s v = (encodeGeometry s (.polygon p)).map some := by
  cases h <;> rfl

/-- The rings of equal polygons, or that neither has one. -/
theorem Polygon.encodeGeometry_alike {p q : Polygon} (h : p == q) :
    Alike EqualDocuments Eq (encodeGeometry s (.polygon p)) (encodeGeometry t (.polygon q)) := by
  have hclosed : p.closed s == q.closed t := Polygon.closed_beq h
  rw [encodeGeometry, encodeGeometry]
  cases hp : p.closed s with
  | none =>
    cases hq : q.closed t with
    | none => exact .error rfl
    | some ring' => simp [hp, hq] at hclosed
  | some ring =>
    cases hq : q.closed t with
    | none => simp [hp, hq] at hclosed
    | some ring' =>
      have hrings : ring == ring' := by simpa [hp, hq] using hclosed
      exact .ok ((geoJsonDocument_equal "Polygon" _ _).mpr
        ((ringCoordinates_equal ring ring').trans hrings))

theorem Polygon.writtenEqual {p q : Polygon} (h : p == q) :
    WrittenEqual (.polygon p) (.polygon q) p.encode q.encode where
  legacy := (Polygon.encode_equal p q).trans h
  geoJson _ _ v' w' hv hw := by
    rw [encodeGeoJson_presents hv, encodeGeoJson_presents hw]
    exact (Polygon.encodeGeometry_alike h).map fun _ _ => .some
  command := by
    have harguments := Value.equalItems_map Point.pair_equal p.points q.points
    exact GeoCommand.encode_alike (.some (harguments.trans h)) rfl

/-- Equal arguments, and no GeoJSON. -/
theorem CenteredShape.arguments_equal {s t : CenteredShape} (h : s == t) :
    Value.equalItems s.arguments t.arguments = true := by
  obtain ⟨hcenter, hradius⟩ := CenteredShape.beq_iff.mp h
  simp [CenteredShape.arguments, Value.equalItems, Point.pair_equal, hcenter, Value.equal,
    Value.equalScalars, Distance.normalized_beq hradius]

theorem Circle.writtenEqual {c c' : Circle} (h : c == c') :
    WrittenEqual (.circle c) (.circle c') c.encode c'.encode where
  legacy := CenteredShape.encode_equal h
  geoJson _ _ v' w' hv hw := by cases hv <;> cases hw <;> exact .error rfl
  command := GeoCommand.encode_alike (.some (CenteredShape.arguments_equal h)) rfl

theorem Sphere.writtenEqual {s t : Sphere} (h : s == t) :
    WrittenEqual (.sphere s) (.sphere t) s.encode t.encode where
  legacy := CenteredShape.encode_equal h
  geoJson _ _ v' w' hv hw := by cases hv <;> cases hw <;> exact .error rfl
  command := GeoCommand.encode_alike (.some (CenteredShape.arguments_equal h)) rfl

/-! ### All shapes -/

/-- **Equal shapes are written equal.** What is written of two equal shapes of one kind compares
equal: their legacy documents, their GeoJSON documents, bare or in a wrapper, and their commands of
any name. Where one of them is not written, the other is not either, with the same fault. Equal
polygons are both left as they are or both led back to their first points, to rings of one length.
Points, boxes and polygons with equal legacy documents are equal. -/
theorem written_equal {kind : ShapeKind} (hv : kind.encode? v = some d)
    (hw : kind.encode? w = some e) :
    (v.equal w = true → WrittenEqual v w d e ∧
      ∀ p q, v = .polygon p → w = .polygon q → WalkedAlike p q) ∧
    (kind ∈ [.point, .box, .polygon] → EqualDocuments d e → v.equal w = true) := by
  -- only the shapes of a kind have a document of that kind, so that five pairs are left
  cases kind <;> cases v <;> cases hv <;> cases w <;> cases hw
  · exact ⟨fun h => ⟨Point.writtenEqual h, nofun⟩, fun _ => (Point.encode_equal _ _).symm.trans⟩
  · exact ⟨fun h => ⟨Box.writtenEqual h, nofun⟩, fun _ => (Box.encode_equal _ _).symm.trans⟩
  · exact ⟨fun h => ⟨Circle.writtenEqual h, nofun⟩, fun hkind => absurd hkind (by decide)⟩
  · exact ⟨fun h => ⟨Sphere.writtenEqual h, nofun⟩, fun hkind => absurd hkind (by decide)⟩
  · refine ⟨fun h => ⟨Polygon.writtenEqual h, ?_⟩, fun _ => (Polygon.encode_equal _ _).symm.trans⟩
    rintro p q ⟨⟩ ⟨⟩
    exact Polygon.walkedAlike h

/-- Two triangles that end where they begin but for the sign of a zero, and differ in both signs. -/
theorem written_equal_zeros :
    let p : Polygon := ⟨[⟨0.0, 1.0⟩, ⟨2.0, 3.0⟩, ⟨-0.0, 1.0⟩]⟩
    let q : Polygon := ⟨[⟨-0.0, 1.0⟩, ⟨2.0, 3.0⟩, ⟨0.0, 1.0⟩]⟩
    (Value.polygon p).equal (.polygon q) = true ∧ EqualDocuments p.encode q.encode ∧
      WrittenEqual (.polygon p) (.polygon q) p.encode q.encode ∧ p.Closed .none ∧ q.Closed .all := by
  intro p q
  have hequal : (Value.polygon p).equal (.polygon q) = true := by decide +kernel
  have hclosed : p.Closed .none := (endsAt_iff _ _).mp (by decide +kernel)
  have hp : ShapeKind.polygon.encode? (.polygon p) = some p.encode := rfl
  have hq : ShapeKind.polygon.encode? (.polygon q) = some q.encode := rfl
  obtain ⟨hwritten, hwalked⟩ := (written_equal hp hq).1 hequal
  have hback : EqualDocuments p.encode q.encode → (Value.polygon p).equal (.polygon q) = true :=
    (written_equal hp hq).2 (by decide)
  exact ⟨hback hwritten.legacy, hwritten.legacy, hwritten, hclosed,
    ((hwalked p q rfl rfl).closed .none .all).mp hclosed⟩

end ShapeCodec
