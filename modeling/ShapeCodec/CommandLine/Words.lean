/-
# Words of a command line

A word of a command line is an option or stands for itself. An option may be shortened as long
as it is still told from the others, and a text may be attached to it: after an equals sign, or
directly if the option has one letter. What starts with a dash and is no option stands for itself
only if it is a single dash, a negative number, or holds a space. After the separator `--` every
word stands for itself.

Key definitions: `Word`, `classify`, `classifyAll`, `isNegativeNumber`.
-/
import ShapeCodec.Text.Digit

namespace ShapeCodec.CommandLine

/-- What the options of the command line ask for. -/
inductive Flag where
  | help
  | version
  | geoJson
  | lenient
deriving DecidableEq

/-- The options that are understood at a place, each with what it asks for. -/
abbrev Options := List (String × Flag)

/-- A word by what it is. -/
inductive Word where
  | plain (text : String)
  | separator
  /-- An option as it is spelled out, with the text attached to it if there is one. -/
  | option (spelling : String) (flag : Flag) (attached : Option (List Char))
  | unknownOption
deriving DecidableEq

/-- Whether one text starts with another. -/
def startsWith (text start : List Char) : Bool := start.isPrefixOf text

/-- The characters of a text before its first `=`. -/
def beforeEquals (text : List Char) : List Char := text.takeWhile (· != '=')

/-- The characters of a text after its first `=`, if it has one. -/
def afterEquals? (text : List Char) : Option (List Char) :=
  match text.dropWhile (· != '=') with
  | [] => none
  | _ :: rest => some rest

/-- A text without a line feed at its very end. -/
def withoutFinalLineFeed (text : List Char) : List Char :=
  if text.getLast? == some '\n' then text.dropLast else text

/-- Whether a word is a dash and digits, or a dash and digits around a point of which those
before it may be missing. A line feed at the very end does not count. -/
def isNegativeNumber (text : List Char) : Bool :=
  match withoutFinalLineFeed text with
  | '-' :: rest =>
    match rest.dropWhile isDecimalDigit with
    | [] => !rest.isEmpty
    | '.' :: fraction => !fraction.isEmpty && fraction.all isDecimalDigit
    | _ => false
  | _ => false

/-- The options that a long word can be short for. -/
def longMatches (options : Options) (text : List Char) : List Word :=
  (options.filter fun entry => startsWith entry.1.toList (beforeEquals text)).map
    fun (spelling, flag) => .option spelling flag (afterEquals? text)

/-- The options that a word with a single dash can be: the one of its first letter, with the
rest attached, and those that start like it. -/
def shortMatches (options : Options) (text : List Char) : List Word :=
  options.filterMap fun (spelling, flag) =>
    if spelling.toList == text.take 2 then some (.option spelling flag (some (text.drop 2)))
    else if startsWith spelling.toList text then some (.option spelling flag none)
    else none

/-- The options that a word can be short for. -/
def shortenedMatches (options : Options) (text : List Char) : List Word :=
  match text with
  | '-' :: '-' :: _ => longMatches options text
  | _ => shortMatches options text

/-- The option that a word spells out before its `=`. -/
def attachedMatch? (options : Options) (text : List Char) : Option Word := do
  let attached ← afterEquals? text
  let spelling := String.ofList (beforeEquals text)
  let flag ← options.lookup spelling
  return .option spelling flag (some attached)

/-- What a word that starts with a dash is, given the options; nothing if it is short for
several. -/
def classifyDashed (options : Options) (text : List Char) : Option Word :=
  let whole := String.ofList text
  match options.lookup whole, attachedMatch? options text, shortenedMatches options text with
  | some flag, _, _ => some (.option whole flag none)
  | none, some word, _ => some word
  | none, none, [word] => some word
  | none, none, [] =>
    if isNegativeNumber text || text.contains ' ' then some (.plain whole)
    else some .unknownOption
  | none, none, _ => none

/-- What a word other than the separator is; nothing if it is short for several options. -/
def classify (options : Options) (word : String) : Option Word :=
  match word.toList with
  | '-' :: rest => if rest.isEmpty then some (.plain word) else classifyDashed options ('-' :: rest)
  | _ => some (.plain word)

/-- What all words are; nothing if one of them is short for several options. -/
def classifyAll (options : Options) : List String → Option (List Word)
  | [] => some []
  | "--" :: rest => some (.separator :: rest.map Word.plain)
  | word :: rest => do
    let first ← classify options word
    let others ← classifyAll options rest
    return first :: others

end ShapeCodec.CommandLine
