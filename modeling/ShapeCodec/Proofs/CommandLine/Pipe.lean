/-
# Pipes of command lines

The output of one command line is the input of the next. A shape that is encoded and decoded is
printed in plain form, and from its plain form it is encoded again, as the same document. The way
back is the same: what was decoded can be encoded, and is decoded to the same plain form unless
a radius was rounded on the way.

A command line crosses a reader and a writer, with JSON text between two of them. So what a
command line prints is said first in terms of the value that its text stands for
(`prints_decode_iff`, `prints_encode_iff`, `prints_geoJson_iff`); then each pipe is a matter of
values, since what was printed stands for the value it was printed from (`parse?_printed`).

Key definitions: `Prints`, `printed?`, `dump?`.
Key theorems: `prints_iff`, `parse?_printed`, `pipe_encode_decode`.
-/
import ShapeCodec.CommandLine.Run
import ShapeCodec.Proofs.Json.RoundTrip
import ShapeCodec.Proofs.Shape.Admission

namespace ShapeCodec
namespace CommandLine

open Json (Plain)

variable {settings : Settings} {files : Files} {words : List String} {request : Request}
  {kind : ShapeKind} {input output : String}

/-! ### What is printed -/

/-- A command line ends with exit code 0 and prints the output, for the text at standard
input. -/
def Prints (settings : Settings) (files : Files) (words : List String) (input output : String) :
    Prop :=
  ∃ notices, run settings ⟨input, files⟩ words = .ok ⟨0, output, notices⟩

/-- A value as it is printed, on lines of its own. -/
def printed? (v : Value) : Option String := (Json.render? (.indented 2) v).map (· ++ "\n")

/-- A shape in plain form as it is printed. -/
def dump? (s : Value) : Option String := s.plain.toOption.bind printed?

theorem dump?_eq_some {s : Value} {text : String} :
    dump? s = some text ↔ ∃ form, s.plain = .ok form ∧ printed? form = some text := by
  unfold dump?
  cases s.plain <;> simp [Except.toOption]

theorem printed_of_plain {v : Value} (h : Plain v) : ∃ text, printed? v = some text := by
  obtain ⟨text, htext⟩ := Json.render_plain (.indented 2) h
  exact ⟨text ++ "\n", by rw [printed?, htext, Option.map_some]⟩

/-- **What is printed of a plain value stands for that value.** -/
theorem parse?_printed {v : Value} {text : String} (hv : Plain v) (h : printed? v = some text) :
    Json.parse? text = some v := by
  obtain ⟨shown, hshown, rfl⟩ := Option.map_eq_some_iff.mp h
  refine Json.parse?_render hv hshown ?_
  intro c hc
  obtain rfl : c = '\n' := by simpa using hc
  rfl

/-! ### Running a request -/

theorem run_request {threshold : Level} (hwords : Request.parse words = .ok request)
    (hfile : request.file = none) (hlevel : Level.ofName? settings.logLevel = some threshold) :
    run settings ⟨input, files⟩ words = request.finish settings threshold input := by
  have hprepare : prepare settings words = .ok (request, threshold) := by
    rw [prepare, hwords, hlevel]
  rw [run, hprepare]
  simp only [hfile, Surroundings.fetch]
  rfl

theorem run_unknownLevel (hwords : Request.parse words = .ok request)
    (hlevel : Level.ofName? settings.logLevel = none) :
    run settings ⟨input, files⟩ words = .error (.unknownLevel settings.logLevel) := by
  have hprepare : prepare settings words = .error (.error (.unknownLevel settings.logLevel)) := by
    rw [prepare, hwords, hlevel]
  rw [run, hprepare]

/-- A request prints what its conversion gives: a failed one does not end with exit code 0. -/
theorem finish_eq_ok {threshold : Level} {notices : List Notice} :
    request.finish settings threshold input = .ok ⟨0, output, notices⟩ ↔
      ∃ v given, convert settings request input = .ok (v, given) ∧ printed? v = some output ∧
        given.filter threshold.passes = notices := by
  unfold Request.finish printed?
  rcases convert settings request input with failure | ⟨v, given⟩
  · cases hreport : failure.report <;> simp [hreport, bind, Except.bind, pure, Except.pure]
  · cases hrender : Json.render? (.indented 2) v <;> simp [hrender]

/-- A request prints exactly if the threshold is one and the conversion gives what is printed. -/
theorem prints_iff (hwords : Request.parse words = .ok request) (hfile : request.file = none) :
    Prints settings files words input output ↔ (Level.ofName? settings.logLevel).isSome ∧
      ∃ v given, convert settings request input = .ok (v, given) ∧ printed? v = some output := by
  unfold Prints
  cases hlevel : Level.ofName? settings.logLevel with
  | none => simp [run_unknownLevel hwords hlevel]
  | some threshold =>
    rw [run_request hwords hfile hlevel]
    simp [finish_eq_ok]

/-! ### Decoding and encoding -/

theorem parse_decode (kind : ShapeKind) :
    Request.parse ["decode", kind.name] = .ok (.decode (.shape kind) none) := by
  cases kind <;> decide +kernel

theorem parse_encode (kind : ShapeKind) :
    Request.parse ["encode", kind.name] = .ok (.encode kind false none) := by
  cases kind <;> decide +kernel

theorem parse_geoJson (kind : ShapeKind) :
    Request.parse ["encode", kind.name, "--geojson"] = .ok (.encode kind true none) := by
  cases kind <;> decide +kernel

theorem mapError_eq_ok {α : Type} {r : Except Fault α} {f : Fault → Failure} {a : α} :
    r.mapError f = .ok a ↔ r = .ok a := by
  cases r <;> simp [Except.mapError]

theorem convert_eq_ok {v : Value} {given : List Notice} :
    convert settings request input = .ok (v, given) ↔
      ∃ w, Json.parse? input = some w ∧ request.perform settings w = .ok (v, given) := by
  unfold convert
  cases Json.parse? input <;> simp [mapError_eq_ok]

/-- A request that is done by a function on values prints what the function gives of the value
that the text stands for. -/
theorem prints_value_iff {convertValue : Value → Except Fault Value}
    (hwords : Request.parse words = .ok request) (hfile : request.file = none)
    (hperform : ∀ v, request.perform settings v = (convertValue v).map (·, [])) :
    Prints settings files words input output ↔ (Level.ofName? settings.logLevel).isSome ∧
      ∃ v w, Json.parse? input = some v ∧ convertValue v = .ok w ∧ printed? w = some output := by
  rw [prints_iff hwords hfile]
  refine and_congr_right fun _ => ⟨?_, ?_⟩
  · rintro ⟨w, given, hconvert, hprinted⟩
    obtain ⟨v, hv, hgiven⟩ := convert_eq_ok.mp hconvert
    rw [hperform] at hgiven
    obtain ⟨w', hw, hpair⟩ := map_eq_ok.mp hgiven
    obtain ⟨rfl, -⟩ := Prod.mk.inj hpair
    exact ⟨v, w', hv, hw, hprinted⟩
  · rintro ⟨v, w, hv, hw, hprinted⟩
    refine ⟨w, [], convert_eq_ok.mpr ⟨v, hv, ?_⟩, hprinted⟩
    rw [hperform, hw]
    rfl

/-- Decoding prints the shape that the text is read as. -/
theorem prints_decode_iff : Prints settings files ["decode", kind.name] input output ↔
    (Level.ofName? settings.logLevel).isSome ∧ ∃ v s, Json.parse? input = some v ∧
      kind.decode v = .ok s ∧ dump? s = some output := by
  rw [prints_value_iff (parse_decode kind) rfl fun _ => rfl]
  refine and_congr_right fun _ => exists_congr fun v => ⟨?_, ?_⟩
  · rintro ⟨form, hv, hdecode, hprinted⟩
    obtain ⟨s, hs, hplain⟩ := bind_eq_ok.mp hdecode
    exact ⟨s, hv, hs, dump?_eq_some.mpr ⟨form, hplain, hprinted⟩⟩
  · rintro ⟨s, hv, hs, hdump⟩
    obtain ⟨form, hplain, hprinted⟩ := dump?_eq_some.mp hdump
    exact ⟨form, hv, bind_eq_ok.mpr ⟨s, hs, hplain⟩, hprinted⟩

/-- Encoding prints the document of the shape as which the text is accepted. -/
theorem prints_encode_iff : Prints settings files ["encode", kind.name] input output ↔
    (Level.ofName? settings.logLevel).isSome ∧ ∃ v s, Json.parse? input = some v ∧
      kind.accept v = .accepted s ∧
      printed? (((kind.encode? s).map Value.document).getD .null) = some output := by
  rw [prints_value_iff (parse_encode kind) rfl fun _ => rfl]
  refine and_congr_right fun _ => exists_congr fun v => ⟨?_, ?_⟩
  · rintro ⟨document, hv, hencode, hprinted⟩
    obtain ⟨s, hs, hwritten⟩ := bind_eq_ok.mp hencode
    obtain rfl := Except.ok.inj hwritten
    exact ⟨s, hv, Verdict.orRejected_eq_ok.mp hs, hprinted⟩
  · rintro ⟨s, hv, hs, hprinted⟩
    exact ⟨_, hv, bind_eq_ok.mpr ⟨s, Verdict.orRejected_eq_ok.mpr hs, rfl⟩, hprinted⟩

/-- Encoding in the GeoJSON dialect prints the GeoJSON document of that shape. -/
theorem prints_geoJson_iff : Prints settings files ["encode", kind.name, "--geojson"] input output ↔
    (Level.ofName? settings.logLevel).isSome ∧ ∃ v s d, Json.parse? input = some v ∧
      kind.accept v = .accepted s ∧ encodeGeoJson .all s = .ok d ∧
      printed? ((d.map Value.document).getD .null) = some output := by
  rw [prints_value_iff (parse_geoJson kind) rfl fun _ => rfl]
  refine and_congr_right fun _ => exists_congr fun v => ⟨?_, ?_⟩
  · rintro ⟨document, hv, hencode, hprinted⟩
    obtain ⟨s, hs, hwritten⟩ := bind_eq_ok.mp hencode
    obtain ⟨d, hd, hwritten⟩ := bind_eq_ok.mp hwritten
    obtain rfl := Except.ok.inj hwritten
    exact ⟨s, d, hv, Verdict.orRejected_eq_ok.mp hs, hd, hprinted⟩
  · rintro ⟨s, d, hv, hs, hd, hprinted⟩
    refine ⟨_, hv, bind_eq_ok.mpr ⟨s, Verdict.orRejected_eq_ok.mpr hs, ?_⟩, hprinted⟩
    exact bind_eq_ok.mpr ⟨d, hd, rfl⟩

/-! ### Pipes -/

theorem dump?_null : dump? .null = some "null\n" := rfl

/-- The output of decoding that is not null is the plain form of an admitted shape. -/
theorem admits_of_dump {v s : Value} (h : kind.decode v = .ok s) (hdump : dump? s = some output)
    (hnull : output ≠ "null\n") : kind.Admits s := by
  refine ShapeKind.admits_of_decode h ?_
  rintro rfl
  exact hnull (Option.some.inj (hdump.symm.trans dump?_null))

/-- What is printed of an admitted shape is encoded as its document. -/
theorem prints_encode_of_dump {s : Value} {d : Document} {document : String}
    (hlevel : (Level.ofName? settings.logLevel).isSome) (hs : kind.Admits s)
    (hdump : dump? s = some output) (hd : kind.encode? s = some d)
    (hdocument : printed? (.document d) = some document) :
    Prints settings files ["encode", kind.name] output document := by
  obtain ⟨form, hform, hplain, haccept⟩ := hs.accept_plain
  obtain ⟨form', hform', hprinted⟩ := dump?_eq_some.mp hdump
  obtain rfl : form = form' := Except.ok.inj (hform.symm.trans hform')
  refine prints_encode_iff.mpr ⟨hlevel, form, s, parse?_printed hplain hprinted, haccept, ?_⟩
  rw [hd]
  exact hdocument

/-- A printed document is decoded as the shape that it is read as. -/
theorem prints_decode_of_document {s : Value} {d : Document} {document : String}
    (hlevel : (Level.ofName? settings.logLevel).isSome) (hplain : Plain (.document d))
    (hdocument : printed? (.document d) = some document) (hread : kind.decode (.document d) = .ok s)
    (hdump : dump? s = some output) :
    Prints settings files ["decode", kind.name] document output :=
  prints_decode_iff.mpr
    ⟨hlevel, .document d, s, parse?_printed hplain hdocument, hread, hdump⟩

theorem dump_of_admits {s : Value} (h : kind.Admits s) : ∃ text, dump? s = some text := by
  obtain ⟨form, hform, hplain, -⟩ := h.accept_plain
  obtain ⟨text, htext⟩ := printed_of_plain hplain
  exact ⟨text, dump?_eq_some.mpr ⟨form, hform, htext⟩⟩

/-- **Pipes of encoding and decoding.** From a text that is encoded as a point, a box or a
polygon, decoding prints the plain form of the shape that was accepted, which is encoded as the
same document again; through GeoJSON it prints that of the shape with its ring closed. All that is
no number in a text is one object, so that a ring with it at both its ends is closed as it is. What
is decoded from any text and is not null is encoded, and decoded again to what it was, if its radius
was in radians or it has none. -/
theorem pipe_encode_decode (settings : Settings) (files : Files) :
    (∀ kind ∈ [.point, .box, .polygon], ∀ text document,
      Prints settings files ["encode", ShapeKind.name kind] text document →
      ∃ v s dump, Json.parse? text = some v ∧ kind.accept v = .accepted s ∧ dump? s = some dump ∧
        Prints settings files ["decode", kind.name] document dump ∧
        Prints settings files ["encode", kind.name] dump document ∧
        ∃ geoJson t closed, ThroughGeoJson .all s t ∧ dump? t = some closed ∧
          Prints settings files ["encode", kind.name, "--geojson"] text geoJson ∧
          Prints settings files ["decode", kind.name] geoJson closed) ∧
    (∀ kind text dump, Prints settings files ["decode", ShapeKind.name kind] text dump →
      dump ≠ "null\n" →
      ∃ v s document, Json.parse? text = some v ∧ kind.decode v = .ok s ∧ dump? s = some dump ∧
        Prints settings files ["encode", kind.name] dump document ∧
        (s.InRadians → Prints settings files ["decode", kind.name] document dump)) := by
  constructor
  · intro kind hkind text document hprints
    obtain ⟨hlevel, v, s, hv, hs, hdocument⟩ := prints_encode_iff.mp hprints
    have hadmits := ShapeKind.admits_of_accept (Json.parse?_plain hv) hs
    obtain ⟨d, hd, hplain, hread⟩ := hadmits.decode_encode
    rw [Value.restored_eq_self (hadmits.inRadians hkind)] at hread
    rw [hd] at hdocument
    obtain ⟨dump, hdump⟩ := dump_of_admits hadmits
    obtain ⟨g, t, hg, hgplain, hthrough, hgread, htadmits⟩ := hadmits.decode_geoJson hkind
    obtain ⟨geoJson, hgeoJson⟩ := printed_of_plain hgplain
    obtain ⟨closed, hclosed⟩ := dump_of_admits htadmits
    refine ⟨v, s, dump, hv, hs, hdump, ?_, ?_, geoJson, t, closed, hthrough, hclosed, ?_, ?_⟩
    · exact prints_decode_of_document hlevel hplain hdocument hread hdump
    · exact prints_encode_of_dump hlevel hadmits hdump hd hdocument
    · exact prints_geoJson_iff.mpr ⟨hlevel, v, s, some g, hv, hs, hg, hgeoJson⟩
    · exact prints_decode_of_document hlevel hgplain hgeoJson hgread hclosed
  · intro kind text dump hprints hnull
    obtain ⟨hlevel, v, s, hv, hs, hdump⟩ := prints_decode_iff.mp hprints
    have hadmits := admits_of_dump hs hdump hnull
    obtain ⟨d, hd, hplain, hread⟩ := hadmits.decode_encode
    obtain ⟨document, hdocument⟩ := printed_of_plain hplain
    refine ⟨v, s, document, hv, hs, hdump, ?_, fun hradians => ?_⟩
    · exact prints_encode_of_dump hlevel hadmits hdump hd hdocument
    · rw [Value.restored_eq_self hradians] at hread
      exact prints_decode_of_document hlevel hplain hdocument hread hdump

/-- A command line that ends with exit code 0, by running it. -/
theorem prints_of_run (h : (run settings ⟨input, files⟩ words).toOption.map Outcome.exitCode = some 0)
    (hother : ((run settings ⟨input, files⟩ words).toOption.map Outcome.output) ≠ some output) :
    ∃ shown, Prints settings files words input shown ∧ shown ≠ output := by
  unfold Prints
  cases hrun : run settings ⟨input, files⟩ words with
  | error crash =>
    rw [hrun] at h
    cases h
  | ok outcome =>
    rw [hrun] at h hother
    obtain ⟨exitCode, shown, notices⟩ := outcome
    obtain rfl : exitCode = 0 := Option.some.inj h
    exact ⟨shown, ⟨notices, rfl⟩, fun heq => hother (congrArg some heq)⟩

/-- An open polygon with what is no number, encoded from its plain form and decoded, and a
polygon decoded from GeoJSON and encoded. -/
theorem pipe_encode_decode_polygon :
    let text := "\x7b\"points\": [\x7b\"x\": 1, \"y\": -0.0\x7d, \x7b\"x\": NaN, \"y\": 2\x7d]\x7d"
    let geoJson := "\x7b\"type\": \"Polygon\", \"coordinates\": [[[1, 2], [3, 4.5]]]\x7d"
    (∃ document dump, Prints {} [] ["encode", "polygon"] text document ∧
      Prints {} [] ["decode", "polygon"] document dump ∧
      Prints {} [] ["encode", "polygon"] dump document) ∧
    (∃ dump document, Prints {} [] ["decode", "polygon"] geoJson dump ∧
      Prints {} [] ["encode", "polygon"] dump document ∧
      Prints {} [] ["decode", "polygon"] document dump) := by
  intro text geoJson
  obtain ⟨document, hdocument, -⟩ : ∃ document, Prints {} [] ["encode", "polygon"] text document ∧
      document ≠ "" := prints_of_run (by decide +kernel) (by decide +kernel)
  obtain ⟨dump, hdump, hnull⟩ : ∃ dump, Prints {} [] ["decode", "polygon"] geoJson dump ∧
      dump ≠ "null\n" := prints_of_run (by decide +kernel) (by decide +kernel)
  obtain ⟨hencode, hdecode⟩ := pipe_encode_decode {} []
  obtain ⟨-, -, dump', -, -, -, hback, hforth, -⟩ :=
    hencode .polygon (by simp) text document hdocument
  obtain ⟨v, s, document', -, hs, hshown, hforth', hback'⟩ :=
    hdecode .polygon geoJson dump hdump hnull
  have hradians : s.InRadians := (admits_of_dump hs hshown hnull).inRadians (by simp)
  exact ⟨⟨document, dump', hdocument, hback, hforth⟩,
    ⟨dump, document', hdump, hforth', hback' hradians⟩⟩

end CommandLine
end ShapeCodec
