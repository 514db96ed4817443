/-
# The program

The command line with the world around it: the settings come from the environment, the text from
a file or standard input, the result goes to standard output and the notices to standard error.
-/
import ShapeCodec.CommandLine.Run

namespace ShapeCodec.CommandLine

/-- The rest of a stream. -/
partial def readAll (stream : IO.FS.Stream) (before : String) : IO String := do
  let line ← stream.getLine
  if line.isEmpty then return before else readAll stream (before ++ line)

/-- The variables that settings are read from, as far as they are set. -/
def environment : IO (List (String × String)) := do
  let names := ["GEO_CONVERTERS_STRICT_GEO_COMMANDS", "GEO_CONVERTERS_LOG_LEVEL"]
  let values ← names.mapM fun name => IO.getEnv name
  return (names.zip values).filterMap fun entry => entry.2.map fun value => (entry.1, value)

/-- Shows an outcome, or what prevented it. -/
def conclude (result : Except Crash Outcome) : IO UInt32 :=
  match result with
  | .ok outcome => do
    for n in outcome.notices do
      IO.eprintln (n.source ++ " - " ++ n.level.name ++ " - " ++ n.text)
    IO.print outcome.output
    return outcome.exitCode.toUInt32
  | .error crash => do
    IO.eprintln crash.message
    return 1

/-- The obstacle that an error of the system stands for. The system's number of an error may come
negated. -/
def obstacle? (e : IO.Error) : Option Obstacle :=
  match e with
  | .noFileOrDirectory .. => some .missing
  | .inappropriateType _ code _ =>
    if min code (0 - code) = 20 then some .notDirectory else some .isDirectory
  | .invalidArgument _ code _ => if min code (0 - code) = 36 then some .nameTooLong else none
  | _ => none

/-- The text of a file. -/
def readFile (path : String) : IO (Except Crash String) := do
  try
    let text ← IO.FS.readFile path
    return .ok text
  catch e =>
    match obstacle? e with
    | some why => return .error (.unreadable path why)
    | none => throw e

/-- The text that a request names; a dash is standard input. -/
def fetch (file : Option String) : IO (Except Crash String) := do
  match file.getD "-" with
  | "-" =>
    let text ← readAll (← IO.getStdin) ""
    return .ok text
  | path => readFile path

/-- Runs the words of a command line. -/
def runWords (words : List String) : IO UInt32 := do
  match Settings.ofEnvironment (← environment) with
  | .error fault => conclude (.error (.fault fault))
  | .ok settings =>
    match prepare settings words with
    | .error result => conclude result
    | .ok (request, threshold) =>
      conclude ((← fetch request.file).bind (request.finish settings threshold))

end ShapeCodec.CommandLine

/-- The program. -/
def main (words : List String) : IO UInt32 := ShapeCodec.CommandLine.runWords words
