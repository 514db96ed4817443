/-
# Standard text from standard text

The reader takes words for the doubles that are not finite, and the printer writes them; no such
word is standard JSON. Standard text is free of them, but it can hold a number past every double,
which is read as an infinite one and goes into the result like any other. The only other way to an
infinite double is a radius that is expressed in a metric.

So a command line that ends with exit code 0 on a standard text does not always print one. It does
exactly if its result is finite (`run_standard`), and if the numbers of the text are, this is a
matter of the radius alone. The word for what is no number is never printed.

Key definitions: `Request.Rescales`.
Key theorems: `Request.perform_plain`, `Request.perform_holds_iff`, `run_standard`.
-/
import ShapeCodec.Proofs.CommandLine.Exit
import ShapeCodec.Proofs.Json.Standard
import ShapeCodec.Proofs.Shape.Numbers

namespace ShapeCodec
namespace CommandLine

open Json (Plain)

variable {P : Float → Prop} {settings : Settings} {request : Request} {source : Source}
  {kind : ShapeKind} {v form : Value} {notices : List Notice}

/-- What a request makes of the radius in a value: only the readers express it in a metric. -/
def Request.Rescales (request : Request) (v : Value) (a : Float) : Prop :=
  ∃ kind file, request = .decode (.shape kind) file ∧ kind.Rescales v a

/-! ### Decoding -/

theorem Source.plain_holds_iff {s : Value} (h : source.read v = .ok s) (hform : s.plain = .ok form) :
    form.AllNumbers P ↔ s.AllNumbers P := by
  by_cases hs : s = .null
  · subst hs
    obtain rfl := Except.ok.inj hform
    rfl
  · cases source with
    | shape kind => exact (ShapeKind.admits_of_decode h hs).plain_holds_iff hform
    | geoJson =>
      obtain ⟨kind, -, g, rfl, hg⟩ := decodeGeoJson_admits h hs
      obtain ⟨inner, hinner, hform⟩ := bind_eq_ok.mp hform
      obtain ⟨type, -, hform⟩ := bind_eq_ok.mp hform
      obtain rfl := Except.ok.inj hform
      simpa using hg.plain_holds_iff hinner

theorem decodePlain_holds_iff (hP : Lasting P) (file : Option String)
    (h : decodePlain source v = .ok form) (hv : v.AllNumbers P) :
    form.AllNumbers P ↔ ∀ a, (Request.decode source file).Rescales v a → P a := by
  rw [decodePlain_eq] at h
  obtain ⟨s, hs, hform⟩ := bind_eq_ok.mp h
  rw [Source.plain_holds_iff hs hform]
  cases source with
  | shape kind =>
    rw [kind.decode_holds_iff hP hs hv]
    simp [Request.Rescales]
  | geoJson =>
    refine iff_of_true (decodeGeoJson_holds hP hs hv) ?_
    rintro a ⟨kind, file, ⟨⟩, -⟩

/-! ### Encoding and commands -/

/-- What is encoded is plain and has the doubles of the shape. -/
theorem encodePlain_holds (hplain : Plain v) {geoJson : Bool}
    (h : encodePlain kind geoJson v = .ok form) :
    Plain form ∧ (Lasting P → v.AllNumbers P → form.AllNumbers P) := by
  obtain ⟨s, hs, h⟩ := bind_eq_ok.mp h
  have haccept := Verdict.orRejected_eq_ok.mp hs
  have hadmits := ShapeKind.admits_of_accept hplain haccept
  cases geoJson with
  | false =>
    obtain ⟨d, hd, hdplain⟩ := hadmits.wellFormed.legacy
    obtain rfl := Except.ok.inj h
    rw [hd]
    exact ⟨hdplain, fun hP hv => ShapeKind.encode_holds hP hd (ShapeKind.accept_holds hP haccept hv)⟩
  | true =>
    obtain ⟨written, hwritten, h⟩ := bind_eq_ok.mp h
    obtain rfl := Except.ok.inj h
    rcases encodeGeoJson_cases hadmits .all with ⟨d, hd, hdplain⟩ | ⟨f, hf, -⟩
    · obtain rfl := Except.ok.inj (hd.symm.trans hwritten)
      exact ⟨hdplain, fun hP hv => hadmits.geoJson_holds hd (ShapeKind.accept_holds hP haccept hv)⟩
    · cases hf.symm.trans hwritten

/-- So is a command, with the doubles of its arguments. -/
theorem commandPlain_holds {strict : Bool} {name : String}
    (h : commandPlain strict name kind v = .ok (form, notices)) :
    Plain form ∧ (Lasting P → v.AllNumbers P → form.AllNumbers P) := by
  obtain ⟨s, hs, h⟩ := bind_eq_ok.mp h
  obtain ⟨c, hc, h⟩ := bind_eq_ok.mp h
  obtain ⟨⟨document, given⟩, hencode, h⟩ := bind_eq_ok.mp h
  obtain ⟨rfl, rfl⟩ := Prod.mk.inj (Except.ok.inj h)
  have haccept := Verdict.orRejected_eq_ok.mp hs
  obtain ⟨operator, -, rfl⟩ := Verdict.map_eq_accepted.mp (Verdict.orRejected_eq_ok.mp hc)
  refine ⟨((encodeCommand_handled strict _).result _ hencode).1, fun hP hv => ?_⟩
  have hshape := ShapeKind.accept_holds hP haccept hv
  unfold GeoCommand.encode at hencode
  split at hencode
  · next arguments harguments =>
    obtain ⟨rfl, -⟩ := Prod.mk.inj (Except.ok.inj hencode)
    have hlist := Value.arguments_holds hP harguments hshape
    simpa using hlist
  · split at hencode
    · cases hencode
    · obtain ⟨rfl, -⟩ := Prod.mk.inj (Except.ok.inj hencode)
      simp

/-! ### Requests -/

/-- The result of a request on a plain value is plain. -/
theorem Request.perform_plain (hplain : Plain v)
    (h : request.perform settings v = .ok (form, notices)) : Plain form := by
  cases request with
  | decode source file =>
    obtain ⟨w, hw, hpair⟩ := map_eq_ok.mp h
    obtain ⟨rfl, -⟩ := Prod.mk.inj hpair
    rw [decodePlain_eq] at hw
    obtain ⟨s, hs, hform⟩ := bind_eq_ok.mp hw
    obtain ⟨form', hform', hdone, -⟩ := Source.read_plain hs
    obtain rfl := Except.ok.inj (hform.symm.trans hform')
    exact hdone
  | encode kind geoJson file =>
    obtain ⟨w, hw, hpair⟩ := map_eq_ok.mp h
    obtain ⟨rfl, -⟩ := Prod.mk.inj hpair
    exact (encodePlain_holds (P := fun _ => True) hplain hw).1
  | command name kind lenient file => exact (commandPlain_holds (P := fun _ => True) h).1

/-- **What holds of the doubles of a value holds of those of the result, exactly if it holds of a
radius that is expressed in a metric.** -/
theorem Request.perform_holds_iff (hP : Lasting P) (hplain : Plain v)
    (h : request.perform settings v = .ok (form, notices)) (hv : v.AllNumbers P) :
    form.AllNumbers P ↔ ∀ a, request.Rescales v a → P a := by
  cases request with
  | decode source file =>
    obtain ⟨w, hw, hpair⟩ := map_eq_ok.mp h
    obtain ⟨rfl, -⟩ := Prod.mk.inj hpair
    exact decodePlain_holds_iff hP file hw hv
  | encode kind geoJson file =>
    obtain ⟨w, hw, hpair⟩ := map_eq_ok.mp h
    obtain ⟨rfl, -⟩ := Prod.mk.inj hpair
    refine iff_of_true ((encodePlain_holds hplain hw).2 hP hv) ?_
    rintro a ⟨kind, file, ⟨⟩, -⟩
  | command name kind lenient file =>
    refine iff_of_true ((commandPlain_holds h).2 hP hv) ?_
    rintro a ⟨kind, file, ⟨⟩, -⟩

theorem Request.Rescales.noNaN {a : Float} (h : request.Rescales v a) (hv : v.NoNaN) :
    a.isNaN = false := by
  obtain ⟨kind, file, -, -, fields, rfl, hrescaled⟩ := h
  exact hrescaled.noNaN hv

/-- What is printed of a plain value is standard exactly if the value is finite. -/
theorem standard_printed_iff {output : String} (hv : Plain v) (h : printed? v = some output) :
    Json.Standard output ↔ v.Finite := by
  obtain ⟨shown, hshown, rfl⟩ := Option.map_eq_some_iff.mp h
  refine Json.standard_render_iff hv hshown ?_
  intro c hc
  obtain rfl : c = '\n' := by simpa using hc
  rfl

/-! ### The whole run -/

variable {s : Surroundings} {words : List String} {text : String} {o : Outcome}

/-- What a command line with exit code 0 prints is the result of its request. -/
theorem run_printed (hwords : Request.parse words = .ok request)
    (hfetch : s.fetch request.file = .ok text) (hrun : run settings s words = .ok o)
    (hexit : o.exitCode = 0) : ∃ v form notices, Json.parse? text = some v ∧
      request.perform settings v = .ok (form, notices) ∧ printed? form = some o.output := by
  cases hlevel : Level.ofName? settings.logLevel with
  | none => cases (run_unknownLevel hwords hlevel).symm.trans hrun
  | some threshold =>
    rw [run_fetched hwords hlevel hfetch] at hrun
    obtain ⟨exitCode, output, shown⟩ := o
    obtain rfl : exitCode = 0 := hexit
    obtain ⟨form, given, hconvert, hprinted, -⟩ := finish_eq_ok.mp hrun
    obtain ⟨v, hv, hperform⟩ := convert_eq_ok.mp hconvert
    exact ⟨v, form, given, hv, hperform, hprinted⟩

/-- **What a command line prints for a standard text.** If it ends with exit code 0, it prints the
result of its request on the value of the text. Every double of the result is a number, and the
output is standard exactly if every one is finite. If every double of the text is finite, the
output is standard exactly if the radius of a circle or a sphere that is decoded is finite in its
metric. -/
theorem run_standard (hwords : Request.parse words = .ok request)
    (hfetch : s.fetch request.file = .ok text) (htext : Json.Standard text)
    (hrun : run settings s words = .ok o) (hexit : o.exitCode = 0) :
    ∃ v form notices, Json.parse? text = some v ∧
      request.perform settings v = .ok (form, notices) ∧ printed? form = some o.output ∧
      form.NoNaN ∧ (Json.Standard o.output ↔ form.Finite) ∧
      (v.Finite →
        (Json.Standard o.output ↔ ∀ a, request.Rescales v a → a.isFinite = true)) := by
  obtain ⟨v, form, notices, hv, hperform, hprinted⟩ := run_printed hwords hfetch hrun hexit
  have hplain : Plain v := Json.parse?_plain hv
  have hstandard := standard_printed_iff (Request.perform_plain hplain hperform) hprinted
  refine ⟨v, form, notices, hv, hperform, hprinted, ?_, hstandard, fun hfinite => ?_⟩
  · obtain ⟨w, hnumbers, hw⟩ := Json.parse?_standard htext
    obtain rfl := Option.some.inj (hw.symm.trans hv)
    exact (Request.perform_holds_iff lasting_noNaN hplain hperform hnumbers).mpr fun a ha =>
      ha.noNaN hnumbers
  · exact hstandard.trans (Request.perform_holds_iff lasting_finite hplain hperform hfinite)

/-- A number past every double, as an exponent makes it. -/
theorem standard_pair : Json.Standard "[1e400, 0]" := by
  have hlarge : Json.IsNumber ['1', 'e', '4', '0', '0'] := by
    have hwhole : Json.IsWhole ['1'] := ⟨by simp [Json.AllDigits], by simp, by simp⟩
    have hexponent : Json.IsExponent ('e' :: ([] ++ ['4', '0', '0'])) :=
      .present (by simp) (by simp) (by simp [Json.AllDigits]) (by simp)
    exact .intro false hwhole .absent hexponent
  have hzero : Json.IsNumber ['0'] := .intro false Json.isWhole_zero .absent .absent
  have hrow : Json.Row [['1', 'e', '4', '0', '0'], ['0']]
      ([] ++ (['1', 'e', '4', '0', '0'] ++ ([] ++ ',' :: ([' '] ++ (['0'] ++ []))))) := by
    have hblank : Json.AllBlank [' '] := by simp [Json.AllBlank, Json.isBlank]
    exact .next Json.allBlank_nil Json.allBlank_nil (.last hblank Json.allBlank_nil)
  refine .intro Json.allBlank_nil (.list hrow fun t ht => ?_) Json.allBlank_nil rfl
  rcases List.mem_pair.mp ht with rfl | rfl
  · exact .number hlarge
  · exact .number hzero

/-- Whether a document starts with a finite double, if it starts with a double. -/
def startsFinite : Value → Bool
  | .document ((_, .float x) :: _) => x.isFinite
  | _ => true

theorem startsFinite_of_finite {v : Value} (h : v.Finite) : startsFinite v = true := by
  unfold startsFinite
  split
  · exact Value.allNumbers_float.mp (Value.allNumbers_document.mp h _ List.mem_cons_self)
  · rfl

/-- A point with a number past every double, and a circle with a radius that is past every double
in kilometers. -/
theorem run_standard_overflow :
    let point := "[1e400, 0]"
    let circle := "\x7b\"center\":[0,0],\"radius\":1e+308,\"metric\":\"KILOMETERS\"\x7d"
    (Json.Standard point ∧ ∃ o, run {} ⟨point, []⟩ ["decode", "point"] = .ok o ∧ o.exitCode = 0 ∧
      ¬ Json.Standard o.output) ∧
    (Json.Standard circle ∧ ∃ o, run {} ⟨circle, []⟩ ["decode", "circle"] = .ok o ∧
      o.exitCode = 0 ∧ ¬ Json.Standard o.output) := by
  intro point circle
  constructor
  · obtain ⟨output, ⟨notices, hrun⟩, -⟩ : ∃ output,
        Prints {} [] ["decode", "point"] point output ∧ output ≠ "" :=
      prints_of_run (by decide +kernel) (by decide +kernel)
    refine ⟨standard_pair, _, hrun, rfl, ?_⟩
    obtain ⟨v, form, _, hv, hperform, -, -, hstandard, -⟩ :=
      run_standard (parse_decode .point) rfl standard_pair hrun rfl
    have hfirst : ((Json.parse? point).bind fun v =>
        ((Request.decode (.shape .point) none).perform {} v).toOption.map fun result =>
          startsFinite result.1) = some false := by
      decide +kernel
    rw [hv, Option.bind_some, hperform] at hfirst
    have hnot : ¬ form.Finite := by
      intro hfinite
      simp only [Except.toOption, Option.map_some] at hfirst
      cases (startsFinite_of_finite hfinite).symm.trans (Option.some.inj hfirst)
    exact mt hstandard.mp hnot
  · let fields : Document := [("center", .list [.int 0, .int 0]), ("radius", .float 1e308),
      ("metric", .text "KILOMETERS")]
    have hplain : Plain (.document fields) := by
      simp [fields, Plain, Json.PlainFields, Json.PlainItems]
    have hrender : Json.render? .compact (.document fields) = some circle := by decide +kernel
    have hfinite : (Value.document fields).Finite := by
      have hradius : (1e308 : Float).isFinite = true := by decide +kernel
      simp [fields, Value.Finite, hradius]
    obtain ⟨hcircle, hread⟩ := Json.standard_of_render hplain hfinite hrender
    obtain ⟨output, ⟨notices, hrun⟩, -⟩ : ∃ output,
        Prints {} [] ["decode", "circle"] circle output ∧ output ≠ "" :=
      prints_of_run (by decide +kernel) (by decide +kernel)
    refine ⟨hcircle, _, hrun, rfl, ?_⟩
    obtain ⟨v, form, _, hv, -, -, -, -, hstandard⟩ :=
      run_standard (parse_decode .circle) rfl hcircle hrun rfl
    obtain rfl := Option.some.inj (hread.symm.trans hv)
    rw [hstandard hfinite]
    intro hall
    have hrescaled : Rescaled fields ((⟨1e308, .neutral⟩ : Distance).inMetric .kilometers).value :=
      ⟨1e308, .kilometers, Or.inl rfl, rfl, rfl⟩
    have hinfinite := hall _ ⟨.circle, none, rfl, by decide, fields, rfl, hrescaled⟩
    revert hinfinite
    decide +kernel

end CommandLine
end ShapeCodec
