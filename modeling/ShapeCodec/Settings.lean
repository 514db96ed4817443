/-
# Settings

Two settings hold for all of the program: whether commands are written strictly, and the
threshold at which the command line shows notices. Both can be given in the environment, under
names that are compared without regard to case; of two variables of one name the later counts.

How strictly a command is written can also be asked for where it is written, and then the settings
do not count.

Key definitions: `Settings`, `Settings.ofEnvironment`, `Settings.strictness`.
-/
import ShapeCodec.Fault

namespace ShapeCodec

/-- What holds for all of the program. -/
structure Settings where
  strictCommands : Bool := true
  logLevel : String := "WARNING"

/-- A text with its ASCII letters in lower case. -/
def lowerCase (text : String) : String := String.ofList (text.toList.map Char.toLower)

/-- The variable that an environment holds under a name, which is in lower case. -/
def environmentValue? (name : String) (environment : List (String × String)) : Option String :=
  (environment.reverse.find? fun entry => lowerCase entry.1 == name).map Prod.snd

/-- The truth value of a word, in any case. -/
def boolOfWord? (text : String) : Option Bool :=
  let word := lowerCase text
  if ["true", "t", "yes", "y", "on", "1"].contains word then some true
  else if ["false", "f", "no", "n", "off", "0"].contains word then some false
  else none

/-- Reads the settings from an environment; what is not given stays as it is by default. -/
def Settings.ofEnvironment (environment : List (String × String)) : Except Fault Settings :=
  let level := (environmentValue? "geo_converters_log_level" environment).getD "WARNING"
  match environmentValue? "geo_converters_strict_geo_commands" environment with
  | none => .ok { logLevel := level }
  | some text =>
    match boolOfWord? text with
    | some strict => .ok ⟨strict, level⟩
    | none => .error (.rejected [⟨["strict_geo_commands"], .notABoolean⟩])

/-- Whether a command is written strictly: as asked for, or as set where nothing is asked for. -/
def Settings.strictness (settings : Settings) (asked : Option Bool) : Bool :=
  asked.getD settings.strictCommands

end ShapeCodec
