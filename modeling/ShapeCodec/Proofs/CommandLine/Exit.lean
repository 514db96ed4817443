/-
# How a command line ends

A command line whose words make a request ends with exit code 0 or 1, provided that its text can
be fetched and no whole number in it is past every double. It ends with 1 exactly if the text is
refused: if it is no JSON text, or if its value is refused by the reader, by acceptance or by the
writer of the request. Then nothing is printed, and there is one notice of the failure, as far as
the threshold lets it through. Otherwise it ends with 0, one value is printed, and no notice is of
a failure.

One thing else can happen to words that are in order: an argument is left without a value, and
the program ends without an outcome before it looks at any text.

Key definitions: `Handled`, `Source.read`, `Request.Refuses`, `Failed`, `Converted`.
Key theorems: `decodePlain_handled`, `encodePlain_handled`, `commandPlain_handled`,
`Request.perform_handled`, `Request.finish_exits`, `run_exits`.
-/
import ShapeCodec.Proofs.CommandLine.Pipe
import ShapeCodec.Proofs.Shape.Production
import ShapeCodec.Proofs.Shape.Range

namespace ShapeCodec

open Json (Plain)

variable {α β : Type}

/-! ### Reported faults -/

/-- The faults that are reported as failed conversions. -/
def Fault.IsReported : Fault → Prop
  | .rejected _ => True
  | f => f.IsConversion

theorem Fault.IsConversion.isReported {f : Fault} (h : f.IsConversion) : f.IsReported := by
  cases f with
  | rejected => trivial
  | _ => exact h

/-- What is known of a conversion: when it is refused, that every refusal is reported, and what
its results are like. -/
structure Handled (r : Except Fault α) (refused : Prop) (good : α → Prop) : Prop where
  refused_iff : (∃ f, r = .error f) ↔ refused
  reported : FailsOnly r Fault.IsReported
  result : ∀ a, r = .ok a → good a

theorem Handled.error {f : Fault} {refused : Prop} {good : α → Prop} (hf : f.IsReported)
    (h : refused) : Handled (.error f) refused good :=
  ⟨iff_of_true ⟨f, rfl⟩ h, FailsOnly.error hf, nofun⟩

theorem Handled.ok {a : α} {refused : Prop} {good : α → Prop} (ha : good a) (h : ¬ refused) :
    Handled (.ok a) refused good := by
  refine ⟨iff_of_false (by simp) h, FailsOnly.ok a, ?_⟩
  rintro _ ⟨⟩
  exact ha

theorem Handled.map {r : Except Fault α} {refused : Prop} {good : α → Prop} {better : β → Prop}
    (h : Handled r refused good) {k : α → β} (hk : ∀ a, good a → better (k a)) :
    Handled (r.map k) refused better := by
  cases r with
  | error f => exact .error (h.reported f rfl) (h.refused_iff.mp ⟨f, rfl⟩)
  | ok a => exact .ok (hk a (h.result a rfl)) fun hrefused => by simpa using h.refused_iff.mpr hrefused

namespace CommandLine

variable {settings : Settings} {request : Request} {kind : ShapeKind} {v : Value}

theorem Failure.report_fault {f : Fault} (h : f.IsReported) :
    ∃ report, (Failure.fault f).report = .ok report := by
  cases f with
  | malformedShape | unusableArgument | unknownMetric | rejected => exact ⟨_, rfl⟩
  | _ => exact h.elim

/-! ### Decoding -/

/-- What a source reads of a value. -/
def Source.read : Source → Value → Except Fault Value
  | .shape kind, v => kind.decode v
  | .geoJson, v => decodeGeoJson v

theorem decodePlain_eq (source : Source) (v : Value) :
    decodePlain source v = (source.read v).bind Value.plain := by
  cases source <;> rfl

theorem Source.read_clean (source : Source) (h : v.InRange) : Clean (source.read v) := by
  cases source with
  | shape kind => exact kind.decode_clean h
  | geoJson => exact decodeGeoJson_clean h

/-- A wrapper of an admitted point or polygon has a plain form. -/
theorem plain_geoJson {g : Value} (h : kind.Admits g)
    (hkind : kind ∈ [ShapeKind.point, ShapeKind.polygon]) :
    ∃ form, (Value.geoJson g).plain = .ok form ∧ Plain form ∧ form ≠ .null := by
  obtain ⟨form, hform, hplain, -⟩ := h.accept_plain
  have htype : ∃ type, g.geoJsonType = .ok type := by
    cases h with
    | point p => exact ⟨_, rfl⟩
    | polygon => exact ⟨_, rfl⟩
    | box | circle | sphere => simp at hkind
  obtain ⟨type, htype⟩ := htype
  refine ⟨.document [("geometry", form), ("type", .text type)], ?_, ?_, nofun⟩
  · rw [Value.plain, hform, htype]
    rfl
  · simp [Plain, Json.PlainFields, hplain]

/-- What is read has a plain form, which is null for null alone. -/
theorem Source.read_plain {source : Source} {s : Value} (h : source.read v = .ok s) :
    ∃ form, s.plain = .ok form ∧ Plain form ∧ (form = .null ↔ v = .null) := by
  have hnull : s = .null ↔ v = .null := by
    cases source with
    | shape kind => exact ShapeKind.decode_null_iff h
    | geoJson => exact decodeGeoJson_null_iff h
  by_cases hs : s = .null
  · subst hs
    exact ⟨.null, rfl, trivial, iff_of_true rfl (hnull.mp rfl)⟩
  · have hv : v ≠ .null := mt hnull.mpr hs
    have hform : ∃ form, s.plain = .ok form ∧ Plain form ∧ form ≠ .null := by
      cases source with
      | shape kind =>
        obtain ⟨form, hform, hplain, haccept⟩ := (ShapeKind.admits_of_decode h hs).accept_plain
        refine ⟨form, hform, hplain, ?_⟩
        rintro rfl
        cases kind <;> cases haccept
      | geoJson =>
        obtain ⟨kind, hkind, g, rfl, hg⟩ := decodeGeoJson_admits h hs
        exact plain_geoJson hg hkind
    obtain ⟨form, hform, hplain, hne⟩ := hform
    exact ⟨form, hform, hplain, iff_of_false hne hv⟩

theorem decodePlain_handled (source : Source) (h : v.InRange) :
    Handled (decodePlain source v) (∃ f, source.read v = .error f)
      fun form => Plain form ∧ (form = .null ↔ v = .null) := by
  rw [decodePlain_eq]
  cases hread : source.read v with
  | error f => exact .error (source.read_clean h f hread).isReported ⟨f, rfl⟩
  | ok s =>
    obtain ⟨form, hform, hplain, hnull⟩ := Source.read_plain hread
    rw [Except.bind, hform]
    exact .ok ⟨hplain, hnull⟩ (by simp)

/-! ### Encoding -/

/-- A value that is not accepted. -/
def NotAccepted (kind : ShapeKind) (v : Value) : Prop := ∀ s, kind.accept v ≠ .accepted s

/-- The GeoJSON writer fails on a circle or a sphere, and on other admitted shapes it writes. -/
theorem encodeGeoJson_cases {s : Value} (h : kind.Admits s) (shared : Sharing) :
    (∃ d, encodeGeoJson shared s = .ok (some d) ∧ Plain (.document d)) ∨
      ∃ f, encodeGeoJson shared s = .error f ∧ f.IsReported := by
  by_cases hkind : kind ∈ [ShapeKind.point, ShapeKind.box, ShapeKind.polygon]
  · exact Or.inl (h.wellFormed.geoJson hkind shared s .bare)
  · cases h with
    | circle | sphere => exact Or.inr ⟨_, rfl, trivial⟩
    | point | box | polygon => simp at hkind

theorem encodePlain_handled (kind : ShapeKind) (geoJson : Bool) (hplain : Plain v) (h : v.InRange) :
    Handled (encodePlain kind geoJson v)
      (NotAccepted kind v ∨
        geoJson ∧ ∃ s f, kind.accept v = .accepted s ∧ encodeGeoJson .all s = .error f) Plain := by
  have hsettled : (kind.accept v).Settled := kind.accept_settled h
  unfold encodePlain NotAccepted
  cases haccept : kind.accept v with
  | overflow => exact absurd haccept hsettled
  | refused complaints => exact .error trivial (by simp)
  | accepted s =>
    have hadmits : kind.Admits s := ShapeKind.admits_of_accept hplain haccept
    cases geoJson with
    | false =>
      obtain ⟨d, hd, hdplain⟩ := hadmits.wellFormed.legacy
      have hresult : Plain (((kind.encode? s).map Value.document).getD .null) := by
        rw [hd]
        exact hdplain
      exact .ok hresult (by simp)
    | true =>
      rcases encodeGeoJson_cases hadmits .all with ⟨d, hd, hdplain⟩ | ⟨f, hf, hreported⟩
      · show Handled ((encodeGeoJson .all s).bind fun d => .ok ((d.map Value.document).getD .null)) _ _
        rw [hd]
        exact .ok hdplain (by simp [hd])
      · show Handled ((encodeGeoJson .all s).bind fun d => .ok ((d.map Value.document).getD .null)) _ _
        rw [hf]
        exact .error hreported (by simp [hf])

/-! ### Commands -/

/-- The notices of a conversion that is not refused: none is of a failure. -/
def NoFailures (notices : List Notice) : Prop := ∀ n ∈ notices, n.level ≠ .error

theorem arguments_plain {s : Value} {arguments : List Value} (h : s.arguments? = some arguments) :
    Json.PlainItems arguments := by
  unfold Value.arguments? at h
  split at h
  · obtain rfl := Option.some.inj h
    exact ⟨Point.pair_plain _, Point.pair_plain _, trivial⟩
  · obtain rfl := Option.some.inj h
    exact ⟨Point.pair_plain _, trivial, trivial⟩
  · obtain rfl := Option.some.inj h
    exact ⟨Point.pair_plain _, trivial, trivial⟩
  · obtain rfl := Option.some.inj h
    exact plainItems_map Point.pair_plain _
  · cases h

/-- A command is refused by the strict writer, or written as plain data. -/
theorem encodeCommand_handled (strict : Bool) (c : GeoCommand) :
    Handled (c.encode strict) (∃ f, c.encode strict = .error f)
      fun result => Plain (.document result.1) ∧ NoFailures result.2 := by
  unfold GeoCommand.encode
  have hdocument : ∀ arguments, Json.PlainItems arguments →
      Plain (.document [(c.command, .list arguments)]) := by
    intro arguments harguments
    simp [Plain, Json.PlainFields, harguments]
  cases harguments : c.shape.arguments? with
  | some arguments =>
    have hnotices : NoFailures [] := by simp [NoFailures]
    exact .ok ⟨hdocument arguments (arguments_plain harguments), hnotices⟩ (by simp)
  | none =>
    cases strict with
    | true => exact .error trivial ⟨_, rfl⟩
    | false =>
      have hnotice : NoFailures [noArgumentsNotice c.command c.shape.typeName] := by
        intro n hn
        obtain rfl := List.mem_singleton.mp hn
        simp [noArgumentsNotice]
      exact .ok ⟨hdocument [] trivial, hnotice⟩ (by simp)

theorem commandPlain_handled (strict : Bool) (name : String) (kind : ShapeKind) (h : v.InRange) :
    Handled (commandPlain strict name kind v)
      (NotAccepted kind v ∨ name = "" ∨
        ∃ s f, kind.accept v = .accepted s ∧ GeoCommand.encode strict ⟨name, s⟩ = .error f)
      fun result => Plain result.1 ∧ NoFailures result.2 := by
  have hsettled : (kind.accept v).Settled := kind.accept_settled h
  unfold commandPlain NotAccepted
  cases haccept : kind.accept v with
  | overflow => exact absurd haccept hsettled
  | refused complaints => exact .error trivial (by simp)
  | accepted s =>
    by_cases hname : name = ""
    · subst hname
      exact .error trivial (by simp)
    · have hparts : GeoCommand.ofParts (.text name) s = .accepted ⟨name, s⟩ :=
        GeoCommand.ofParts_text hname s
      have hhandled := encodeCommand_handled strict ⟨name, s⟩
      simp only [Verdict.orRejected, hparts, bind, Except.bind, pure, Except.pure]
      cases hencode : GeoCommand.encode strict ⟨name, s⟩ with
      | error f => exact .error (hhandled.reported f hencode) (by simp [hencode])
      | ok result => exact .ok (hhandled.result result hencode) (by simp [hname, hencode])

/-! ### Requests -/

/-- A value that a request refuses: the reader fails on it, or it is not accepted, or the writer
fails on the shape that is accepted. A command is refused as well if its name is empty. -/
def Request.Refuses (settings : Settings) (request : Request) (v : Value) : Prop :=
  match request with
  | .decode source _ => ∃ f, source.read v = .error f
  | .encode kind geoJson _ => NotAccepted kind v ∨
      geoJson ∧ ∃ s f, kind.accept v = .accepted s ∧ encodeGeoJson .all s = .error f
  | .command name kind lenient _ => NotAccepted kind v ∨ name = "" ∨
      ∃ s f, kind.accept v = .accepted s ∧
        GeoCommand.encode (if lenient then false else settings.strictCommands) ⟨name, s⟩ = .error f

theorem strictness_of_lenient (settings : Settings) (lenient : Bool) :
    settings.strictness (if lenient then some false else none) =
      if lenient then false else settings.strictCommands := by
  cases lenient <;> rfl

/-- **What comes of a request on a plain value in range.** -/
theorem Request.perform_handled (settings : Settings) (request : Request) (hplain : Plain v)
    (h : v.InRange) : Handled (request.perform settings v) (request.Refuses settings v) fun result =>
      Plain result.1 ∧ NoFailures result.2 ∧
        ∀ source file, request = .decode source file → (result.1 = .null ↔ v = .null) := by
  cases request with
  | decode source file =>
    refine (decodePlain_handled source h).map fun form hform => ?_
    exact ⟨hform.1, nofun, fun _ _ _ => hform.2⟩
  | encode kind geoJson file =>
    refine (encodePlain_handled kind geoJson hplain h).map fun document hdocument => ?_
    exact ⟨hdocument, nofun, nofun⟩
  | command name kind lenient file =>
    have hhandled :=
      commandPlain_handled (if lenient then false else settings.strictCommands) name kind h
    rw [Request.perform, strictness_of_lenient]
    refine ⟨hhandled.refused_iff, hhandled.reported, fun result hresult => ?_⟩
    obtain ⟨hdocument, hnotices⟩ := hhandled.result result hresult
    exact ⟨hdocument, hnotices, nofun⟩

/-! ### Running a command line -/

variable {threshold : Level} {s : Surroundings} {words : List String} {text : String}

/-- A text that a request refuses: it is no JSON text, or its value is refused. -/
def Request.RefusesText (settings : Settings) (request : Request) (text : String) : Prop :=
  Json.parse? text = none ∨ ∃ v, Json.parse? text = some v ∧ request.Refuses settings v

/-- The end of a failed conversion: exit code 1, nothing printed, and a single notice of the
failure where the threshold admits one. -/
structure Failed (threshold : Level) (o : Outcome) : Prop where
  exitCode : o.exitCode = 1
  output : o.output = ""
  notices : ∃ report, o.notices =
    if threshold.severity ≤ Level.error.severity then [failureNotice report] else []

/-- The end of a conversion that did not fail: exit code 0, no notice of a failure, and one value
printed, which in decoding is null exactly if the text stands for null. -/
structure Converted (request : Request) (text : String) (o : Outcome) : Prop where
  exitCode : o.exitCode = 0
  notices : NoFailures o.notices
  output : ∃ v, printed? v = some o.output ∧ Json.parse? o.output = some v ∧
    ∀ source file, request = .decode source file → (v = .null ↔ Json.parse? text = some .null)

theorem Request.finish_failure (threshold : Level) {failure : Failure} {report : String}
    (hconvert : convert settings request text = .error failure)
    (hreport : failure.report = .ok report) :
    ∃ o, request.finish settings threshold text = .ok o ∧ Failed threshold o := by
  refine ⟨⟨1, "", [failureNotice report].filter threshold.passes⟩, ?_, rfl, rfl, report, ?_⟩
  · rw [Request.finish, hconvert]
    simp only [hreport]
    rfl
  · simp [List.filter_cons, Level.passes, failureNotice]

theorem Request.finish_result (threshold : Level) {v w : Value} {given : List Notice}
    (hv : Json.parse? text = some v)
    (hperform : request.perform settings v = .ok (w, given)) (hplain : Plain w)
    (hgiven : NoFailures given)
    (hnull : ∀ source file, request = .decode source file → (w = .null ↔ v = .null)) :
    ∃ o, request.finish settings threshold text = .ok o ∧ Converted request text o := by
  obtain ⟨output, houtput⟩ := printed_of_plain hplain
  have hconvert : convert settings request text = .ok (w, given) :=
    convert_eq_ok.mpr ⟨v, hv, hperform⟩
  refine ⟨⟨0, output, given.filter threshold.passes⟩,
    finish_eq_ok.mpr ⟨w, given, hconvert, houtput, rfl⟩, rfl, ?_,
    w, houtput, parse?_printed hplain houtput, ?_⟩
  · intro n hn
    exact hgiven n (List.mem_of_mem_filter hn)
  · intro source file hrequest
    rw [hnull source file hrequest, hv, Option.some.injEq]

/-- A request on a text in range fails on what it refuses, and converts everything else. -/
theorem Request.finish_exits (settings : Settings) (threshold : Level) (request : Request)
    (hrange : ∀ v, Json.parse? text = some v → v.InRange) :
    ∃ o, request.finish settings threshold text = .ok o ∧
      (request.RefusesText settings text ∧ Failed threshold o ∨
        ¬ request.RefusesText settings text ∧ Converted request text o) := by
  cases hv : Json.parse? text with
  | none =>
    have hconvert : convert settings request text = .error .notJson := by rw [convert, hv]
    obtain ⟨o, ho, hfailed⟩ := Request.finish_failure threshold hconvert rfl
    exact ⟨o, ho, Or.inl ⟨Or.inl hv, hfailed⟩⟩
  | some v =>
    have hrefuses : request.RefusesText settings text ↔ request.Refuses settings v := by
      simp [Request.RefusesText, hv]
    have hhandled := request.perform_handled settings (Json.parse?_plain hv) (hrange v hv)
    rw [hrefuses, ← hhandled.refused_iff]
    cases hperform : request.perform settings v with
    | error f =>
      obtain ⟨report, hreport⟩ := Failure.report_fault (hhandled.reported f hperform)
      have hconvert : convert settings request text = .error (.fault f) := by
        rw [convert, hv]
        simp only [hperform]
        rfl
      obtain ⟨o, ho, hfailed⟩ := Request.finish_failure threshold hconvert hreport
      exact ⟨o, ho, Or.inl ⟨⟨f, rfl⟩, hfailed⟩⟩
    | ok result =>
      obtain ⟨hplain, hgiven, hnull⟩ := hhandled.result result hperform
      obtain ⟨o, ho, hconverted⟩ :=
        Request.finish_result threshold hv hperform hplain hgiven hnull
      exact ⟨o, ho, Or.inr ⟨by simp, hconverted⟩⟩

theorem run_fetched (hwords : Request.parse words = .ok request)
    (hlevel : Level.ofName? settings.logLevel = some threshold)
    (hfetch : s.fetch request.file = .ok text) :
    run settings s words = request.finish settings threshold text := by
  have hprepare : prepare settings words = .ok (request, threshold) := by
    rw [prepare, hwords, hlevel]
  rw [run, hprepare]
  simp only [hfetch]
  rfl

/-- **How a command line ends**, under a threshold that is one. If its words make a request and
the text that the request names can be fetched and is in range, it ends with an outcome: with that
of a failed conversion on what the request refuses, and on everything else with that of a
conversion. If instead an argument is left without a value, it ends without an outcome. -/
theorem run_exits (settings : Settings) (s : Surroundings) (words : List String)
    (hlevel : Level.ofName? settings.logLevel = some threshold) :
    (∀ request text, Request.parse words = .ok request → s.fetch request.file = .ok text →
      (∀ v, Json.parse? text = some v → v.InRange) →
      ∃ o, run settings s words = .ok o ∧
        (request.RefusesText settings text ∧ Failed threshold o ∨
          ¬ request.RefusesText settings text ∧ Converted request text o)) ∧
    (Request.parse words = .error .noValue → run settings s words = .error .noValue) := by
  constructor
  · intro request text hwords hfetch hrange
    obtain ⟨o, ho, hends⟩ := request.finish_exits settings threshold hrange
    exact ⟨o, (run_fetched hwords hlevel hfetch).trans ho, hends⟩
  · intro hwords
    have hprepare : prepare settings words = .error (.error .noValue) := by
      rw [prepare, hwords, hlevel]
    rw [run, hprepare]

/-- A text that is no JSON text ends with exit code 1, unless the kind of shape is left without a
value: of the two separators the name takes the first, and the second is all there is of the
kind. -/
theorem run_exits_noValue :
    (∃ o, run {} ⟨"nonsense", []⟩ ["command", "n", "box"] = .ok o ∧ Failed .warning o) ∧
      run {} ⟨"nonsense", []⟩ ["command", "n", "--", "--"] = .error .noValue := by
  have hlevel : Level.ofName? ({} : Settings).logLevel = some .warning := rfl
  have hnone : Json.parse? "nonsense" = none := Option.isNone_iff_eq_none.mp (by decide +kernel)
  have hrange : ∀ v, Json.parse? "nonsense" = some v → v.InRange := by
    intro v hv
    cases hnone.symm.trans hv
  constructor
  · have hwords : Request.parse ["command", "n", "box"] = .ok (.command "n" .box false none) := by
      decide +kernel
    obtain ⟨o, ho, ⟨-, hfailed⟩ | ⟨hnot, -⟩⟩ :=
      (run_exits {} ⟨"nonsense", []⟩ _ hlevel).1 _ "nonsense" hwords rfl hrange
    · exact ⟨o, ho, hfailed⟩
    · exact absurd (Or.inl hnone) hnot
  · have hwords : Request.parse ["command", "n", "--", "--"] = .error .noValue := by
      decide +kernel
    exact (run_exits {} ⟨"nonsense", []⟩ _ hlevel).2 hwords

end CommandLine
end ShapeCodec
