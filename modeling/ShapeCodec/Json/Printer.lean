/-
# Writing JSON

Plain values as JSON text in ASCII. Characters outside ASCII are written by their UTF-16 codes.
Doubles have the shortest digits that read back; those that are not finite are written as the
words that the reader takes. A tuple is written as a list, a metric as the text of its name.
Shapes and objects of other classes have no JSON text.

Key definitions: `Json.Layout`, `Json.quotedText`, `Json.render?`.
-/
import ShapeCodec.Number.Spelling
import ShapeCodec.Text.Joined
import ShapeCodec.Text.Quoted
import ShapeCodec.Value

namespace ShapeCodec.Json

/-- How the parts of lists and documents are set apart. -/
inductive Layout where
  /-- All on one line. -/
  | compact
  /-- Each part on its own line, indented by so many blanks for each level. -/
  | indented (width : Nat)

/-- What stands before a part at a depth. -/
def Layout.lineBreak : Layout → Nat → String
  | compact, _ => ""
  | indented width, depth => String.ofList ('\n' :: List.replicate (width * depth) ' ')

/-- What stands between a name and its value. -/
def Layout.colon : Layout → String
  | compact => ":"
  | indented _ => ": "

/-- Parts between two brackets. -/
def Layout.bracketed (layout : Layout) (depth : Nat) (opening closing : String)
    (parts : List String) : String :=
  if parts.isEmpty then opening ++ closing
  else
    let inner := layout.lineBreak (depth + 1)
    opening ++ inner ++ joined ("," ++ inner) parts ++ layout.lineBreak depth ++ closing

/-! ### Text -/

/-- A code as an escape of four hexadecimal digits. -/
def unitEscape (code : Nat) : List Char := '\\' :: 'u' :: hexOf 4 code

/-- How a character is written between quotes. -/
def escapedChar (c : Char) : List Char :=
  if c == '\x22' || c == '\\' then ['\\', c]
  else if c == '\n' then ['\\', 'n']
  else if c == '\r' then ['\\', 'r']
  else if c == '\t' then ['\\', 't']
  else if c == '\x08' then ['\\', 'b']
  else if c == '\x0c' then ['\\', 'f']
  else if 0x20 ≤ c.toNat && c.toNat < 0x7f then [c]
  else if c.toNat < 0x10000 then unitEscape c.toNat
  else
    let offset := c.toNat - 0x10000
    unitEscape (0xd800 + offset / 0x400) ++ unitEscape (0xdc00 + offset % 0x400)

/-- A text between quotes. -/
def quotedText (text : String) : String :=
  String.ofList ('\x22' :: (text.toList.flatMap escapedChar ++ ['\x22']))

/-! ### Values -/

/-- The spelling of numbers in JSON. -/
def spelling : Spelling := ⟨"NaN", "Infinity"⟩

mutual

/-- A value as JSON text, at a depth. -/
def renderAt (layout : Layout) (depth : Nat) : Value → Option String
  | .null => some "null"
  | .bool b => some (if b then "true" else "false")
  | .int n => some (toString n)
  | .float x => some (spelling.write x)
  | .text s => some (quotedText s)
  | .metric m => some (quotedText m.name)
  | .list items => (renderItems layout (depth + 1) items).map (layout.bracketed depth "[" "]")
  | .tuple items => (renderItems layout (depth + 1) items).map (layout.bracketed depth "[" "]")
  | .document fields =>
    (renderFields layout (depth + 1) fields).map (layout.bracketed depth "\x7b" "\x7d")
  | _ => none

/-- The items of a list as JSON text. -/
def renderItems (layout : Layout) (depth : Nat) : List Value → Option (List String)
  | [] => some []
  | v :: rest => do
    let text ← renderAt layout depth v
    let texts ← renderItems layout depth rest
    return text :: texts

/-- The fields of a document as JSON text. -/
def renderFields (layout : Layout) (depth : Nat) : List (String × Value) → Option (List String)
  | [] => some []
  | (name, v) :: rest => do
    let text ← renderAt layout depth v
    let texts ← renderFields layout depth rest
    return (quotedText name ++ layout.colon ++ text) :: texts

end

/-- A value as JSON text, if it is plain. -/
def render? (layout : Layout) (v : Value) : Option String := renderAt layout 0 v

end ShapeCodec.Json
