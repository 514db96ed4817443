/-
# Running a command line

A command line is carried out in three steps: the words are read as a request, the text that the
request names is fetched, and the text is converted and printed. A conversion that fails ends
with exit code 1, a notice of the failure and nothing printed; a wrong command line ends with
exit code 2. What is not a failed conversion has no outcome at all: a file that cannot be read, a
threshold that is none, a number too large for a double or too long to be shown.

Key definitions: `Outcome`, `Crash`, `Failure.report`, `prepare`, `convert`, `Request.finish`,
`run`.
-/
import ShapeCodec.Catalogue
import ShapeCodec.CommandLine.Files
import ShapeCodec.CommandLine.Request
import ShapeCodec.Json.Printer
import ShapeCodec.Json.Reader
import ShapeCodec.Settings
import ShapeCodec.Value.Plain

namespace ShapeCodec.CommandLine

/-- What running a command line leaves behind. -/
structure Outcome where
  exitCode : Nat
  output : String
  notices : List Notice
deriving DecidableEq

/-- What ends the program without an outcome. -/
inductive Crash where
  /-- An argument has no value. -/
  | noValue
  | unknownLevel (text : String)
  | unreadable (path : String) (why : Obstacle)
  /-- A fault that is not one of the converted text. -/
  | fault (cause : Fault)
  /-- A result of this kind has no JSON text. -/
  | notPlain (found : String)

/-- The wording of a crash. -/
def Crash.message : Crash → String
  | noValue => "unhashable type: 'list'"
  | unknownLevel text => "Unknown level: " ++ quoted text
  | unreadable path why => why.message path
  | fault cause => cause.message
  | notPlain found => "Object of type " ++ found ++ " is not JSON serializable"

/-- What is printed for the version. -/
def versionText : String := "geo-converters 0.1.0\n"

/-- What is printed for help. -/
def helpText : String :=
  "usage: geo-converters decode KIND [FILE]\n" ++
  "       geo-converters encode [--geojson] KIND [FILE]\n" ++
  "       geo-converters command [--lenient] NAME KIND [FILE]\n"

/-! ### Conversion -/

/-- Why a text is not converted. -/
inductive Failure where
  | notJson
  | fault (cause : Fault)

/-- How a failed conversion is reported. A number too large or too long, a polygon without points,
an object without a plain form and what cannot be looked into are no failed conversions, but end the
program. -/
def Failure.report : Failure → Except Crash String
  | notJson => .ok "JSONDecodeError"
  | fault cause =>
    match cause with
    | .rejected _ => .ok ("ValidationError " ++ cause.message)
    | .malformedShape _ => .ok cause.message
    | .unusableArgument _ => .ok cause.message
    | .unknownMetric _ => .ok cause.message
    | .overflow => .error (.fault cause)
    | .tooManyDigits => .error (.fault cause)
    | .emptyPolygon => .error (.fault cause)
    | .noPlainForm _ => .error (.fault cause)
    | .noSize _ => .error (.fault cause)
    | .noElements _ => .error (.fault cause)
    | .noNames _ => .error (.fault cause)

/-- The notice of a failed conversion. -/
def failureNotice (report : String) : Notice :=
  ⟨.error, "geo_converters", "Conversion failed: " ++ report⟩

/-- Decodes a document as a shape in plain form; null as null. -/
def decodePlain (source : Source) (v : Value) : Except Fault Value := do
  let shape ←
    match source with
    | .shape kind => kind.decode v
    | .geoJson => decodeGeoJson v
  shape.plain

/-- Encodes a shape in plain form as a document, in one dialect or the other. All that is not a
number in a text is one object, so that the ends of a polygon share it. -/
def encodePlain (kind : ShapeKind) (geoJson : Bool) (v : Value) : Except Fault Value := do
  let shape ← (kind.accept v).orRejected
  if geoJson then
    let document ← encodeGeoJson .all shape
    return (document.map Value.document).getD .null
  else return ((kind.encode? shape).map Value.document).getD .null

/-- Writes a command on a shape in plain form. -/
def commandPlain (strict : Bool) (name : String) (kind : ShapeKind) (v : Value) :
    Except Fault (Value × List Notice) := do
  let shape ← (kind.accept v).orRejected
  let command ← (GeoCommand.ofParts (.text name) shape).orRejected
  let (document, notices) ← command.encode strict
  return (.document document, notices)

/-- Does what a request asks for with a value. -/
def Request.perform (settings : Settings) (request : Request) (v : Value) :
    Except Fault (Value × List Notice) :=
  match request with
  | .decode source _ => (decodePlain source v).map (·, [])
  | .encode kind geoJson _ => (encodePlain kind geoJson v).map (·, [])
  | .command name kind lenient _ =>
    commandPlain (settings.strictness (if lenient then some false else none)) name kind v

/-- Converts a text. -/
def convert (settings : Settings) (request : Request) (text : String) :
    Except Failure (Value × List Notice) :=
  match Json.parse? text with
  | none => .error .notJson
  | some v => (request.perform settings v).mapError Failure.fault

/-- Converts a text and prints the result, showing the notices that pass the threshold. -/
def Request.finish (settings : Settings) (threshold : Level) (request : Request)
    (text : String) : Except Crash Outcome :=
  match convert settings request text with
  | .ok (v, notices) =>
    match Json.render? (.indented 2) v with
    | some output => .ok ⟨0, output ++ "\n", notices.filter threshold.passes⟩
    | none => .error (.notPlain v.typeName)
  | .error failure => do
    let report ← failure.report
    return ⟨1, "", [failureNotice report].filter threshold.passes⟩

/-! ### The whole run -/

/-- Reads the words as a request, and after that the threshold. Otherwise the command line ends
here, with an outcome or without. -/
def prepare (settings : Settings) (words : List String) :
    Except (Except Crash Outcome) (Request × Level) :=
  match Request.parse words, Level.ofName? settings.logLevel with
  | .error .usage, _ => .error (.ok ⟨2, "", []⟩)
  | .error .help, _ => .error (.ok ⟨0, helpText, []⟩)
  | .error .version, _ => .error (.ok ⟨0, versionText, []⟩)
  | _, none => .error (.error (.unknownLevel settings.logLevel))
  | .error .noValue, some _ => .error (.error .noValue)
  | .ok request, some threshold => .ok (request, threshold)

/-- What a command line finds around it: standard input, and files. -/
structure Surroundings where
  input : String
  files : Files

/-- The text that a request names: a dash is standard input. -/
def Surroundings.fetch (s : Surroundings) : Option String → Except Crash String
  | none => .ok s.input
  | some "-" => .ok s.input
  | some path => (s.files.read path).mapError (Crash.unreadable path)

/-- Runs a command line. -/
def run (settings : Settings) (s : Surroundings) (words : List String) : Except Crash Outcome :=
  match prepare settings words with
  | .error result => result
  | .ok (request, threshold) => do
    let text ← s.fetch request.file
    request.finish settings threshold text

end ShapeCodec.CommandLine
