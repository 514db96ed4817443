/-
# Reading JSON

JSON text as a value. Beside standard JSON the words `NaN`, `Infinity` and `-Infinity` are read
as numbers. A number without point and exponent is whole, with any number of digits; any other is
a double. Half a character that was written on its own is replaced, since no text holds it.
Of two fields of one name the later value counts, at the place of the earlier. Blank are the
space, tab, line feed and carriage return.

The readers of nested values count down from a bound that the length of the text gives, since
between two steps down a character is read.

Key definitions: `Json.scanText`, `Json.scanNumber`, `Json.readValue`, `Json.parse?`.
-/
import ShapeCodec.Value
import ShapeCodec.Number.Spelling

namespace ShapeCodec.Json

/-- The characters between tokens. -/
def isBlank (c : Char) : Bool := c == ' ' || c == '\t' || c == '\n' || c == '\r'

/-- The text from its first character that is not blank. -/
def skipBlanks (s : List Char) : List Char := s.dropWhile isBlank

/-! ### Text -/

/-- The value of a hexadecimal digit, in either case. -/
def hexDigit? (c : Char) : Option Nat :=
  if '0' ≤ c ∧ c ≤ '9' then some (c.toNat - '0'.toNat)
  else if 'a' ≤ c ∧ c ≤ 'f' then some (c.toNat - 'a'.toNat + 10)
  else if 'A' ≤ c ∧ c ≤ 'F' then some (c.toNat - 'A'.toNat + 10)
  else none

/-- The value of four hexadecimal digits. -/
def hexUnit? (a b c d : Char) : Option Nat := do
  let a ← hexDigit? a
  let b ← hexDigit? b
  let c ← hexDigit? c
  let d ← hexDigit? d
  return ((a * 16 + b) * 16 + c) * 16 + d

/-- The character that a backslash and one more character stand for. -/
def shortEscape? (c : Char) : Option Nat :=
  match c with
  | '\x22' => some 0x22
  | '\\' => some 0x5c
  | '/' => some 0x2f
  | 'b' => some 0x08
  | 'f' => some 0x0c
  | 'n' => some 0x0a
  | 'r' => some 0x0d
  | 't' => some 0x09
  | _ => none

/-- Reads a text up to its closing quote, as codes. A character above U+FFFF may have been
written as two. -/
def scanText : List Char → Option (List Nat × List Char)
  | [] => none
  | '\x22' :: rest => some ([], rest)
  | '\\' :: 'u' :: a :: b :: c :: d :: rest => do
    let code ← hexUnit? a b c d
    let (codes, rest) ← scanText rest
    return (code :: codes, rest)
  | '\\' :: c :: rest => do
    let code ← shortEscape? c
    let (codes, rest) ← scanText rest
    return (code :: codes, rest)
  | c :: rest =>
    if c == '\\' || c.toNat < 0x20 then none
    else do
      let (codes, rest) ← scanText rest
      return (c.toNat :: codes, rest)

/-- Whether a code is the first of two that make one character. -/
def isLeading (code : Nat) : Bool := 0xd800 ≤ code && code < 0xdc00

/-- Whether a code is the second of two that make one character. -/
def isTrailing (code : Nat) : Bool := 0xdc00 ≤ code && code < 0xe000

/-- The character of a code that stands alone; half a character is replaced. -/
def charOfCode (code : Nat) : Char :=
  if isLeading code || isTrailing code then Char.ofNat 0xfffd else Char.ofNat code

/-- The characters that codes stand for. -/
def charsOfCodes : List Nat → List Char
  | [] => []
  | [code] => [charOfCode code]
  | first :: second :: rest =>
    if isLeading first && isTrailing second then
      Char.ofNat (0x10000 + (first - 0xd800) * 0x400 + (second - 0xdc00)) :: charsOfCodes rest
    else charOfCode first :: charsOfCodes (second :: rest)

/-- Reads a text up to its closing quote. -/
def readText (s : List Char) : Option (String × List Char) :=
  (scanText s).map fun (codes, rest) => (String.ofList (charsOfCodes codes), rest)

/-! ### Numbers and words -/

/-- Reads the digits before the point: a zero alone, or digits of which the first is not
zero. -/
def scanWhole (s : List Char) : Option (List Char × List Char) :=
  match s with
  | '0' :: rest => some (['0'], rest)
  | _ =>
    let digits := s.takeWhile Char.isDigit
    if digits.isEmpty then none else some (digits, s.dropWhile Char.isDigit)

/-- Reads a point and at least one digit, if they are there. -/
def scanFraction (s : List Char) : Option (List Char) × List Char :=
  match s with
  | '.' :: rest =>
    let digits := rest.takeWhile Char.isDigit
    if digits.isEmpty then (none, s) else (some digits, rest.dropWhile Char.isDigit)
  | _ => (none, s)

/-- Reads the digits of an exponent, if there are any, under a sign. -/
def scanExponentDigits (negative : Bool) (s : List Char) : Option (Int × List Char) :=
  let digits := s.takeWhile Char.isDigit
  if digits.isEmpty then none
  else
    let size := Int.ofNat (natOfDigits digits)
    some (if negative then -size else size, s.dropWhile Char.isDigit)

/-- Reads an exponent, if it is there. -/
def scanExponent (s : List Char) : Option (Int × List Char) :=
  match s with
  | mark :: rest =>
    if mark == 'e' || mark == 'E' then
      match rest with
      | '-' :: digits => scanExponentDigits true digits
      | '+' :: digits => scanExponentDigits false digits
      | digits => scanExponentDigits false digits
    else none
  | [] => none

/-- Reads a number after its sign. -/
def scanMagnitude (negative : Bool) (s : List Char) : Option (Value × List Char) := do
  let (whole, rest) ← scanWhole s
  let (fraction, rest) := scanFraction rest
  let digits := natOfDigits (whole ++ fraction.getD [])
  let places := Int.ofNat (fraction.getD []).length
  match fraction, scanExponent rest with
  | none, none => return (.int (if negative then -Int.ofNat digits else Int.ofNat digits), rest)
  | _, none => return (.float (floatOfDecimal negative digits (-places)), rest)
  | _, some (exponent, rest) =>
    return (.float (floatOfDecimal negative digits (exponent - places)), rest)

/-- Reads a number. -/
def scanNumber : List Char → Option (Value × List Char)
  | '-' :: rest => scanMagnitude true rest
  | s => scanMagnitude false s

/-- What follows a word, if the text starts with it. -/
def afterWord? : List Char → List Char → Option (List Char)
  | [], s => some s
  | c :: word, d :: s => if c == d then afterWord? word s else none
  | _ :: _, [] => none

/-- The words that stand for values. -/
def words : List (String × Value) :=
  [("null", .null), ("true", .bool true), ("false", .bool false),
    ("NaN", .float (0.0 / 0.0)), ("Infinity", .float (1.0 / 0.0)),
    ("-Infinity", .float (-(1.0 / 0.0)))]

/-- Reads a word. -/
def readWord (s : List Char) : Option (Value × List Char) :=
  words.findSome? fun (word, v) => (afterWord? word.toList s).map fun rest => (v, rest)

/-! ### Values -/

/-- A document of fields in the order in which they were written. -/
def documentOf (fields : List (String × Value)) : Value :=
  .document (fields.foldl (fun d field => putField field.1 field.2 d) [])

mutual

/-- Reads a value at the start of a text, at most `bound` steps deep. -/
def readValue : Nat → List Char → Option (Value × List Char)
  | 0, _ => none
  | bound + 1, s =>
    match s with
    | '\x22' :: rest => (readText rest).map fun (text, rest) => (.text text, rest)
    | '[' :: rest =>
      match skipBlanks rest with
      | ']' :: rest => some (.list [], rest)
      | rest => (readItems bound rest).map fun (items, rest) => (.list items, rest)
    | '\x7b' :: rest =>
      match skipBlanks rest with
      | '\x7d' :: rest => some (.document [], rest)
      | rest => (readFields bound rest).map fun (fields, rest) => (documentOf fields, rest)
    | s => (readWord s).or (scanNumber s)

/-- Reads the items of a list after its opening bracket. -/
def readItems : Nat → List Char → Option (List Value × List Char)
  | 0, _ => none
  | bound + 1, s => do
    let (v, rest) ← readValue bound s
    match skipBlanks rest with
    | ',' :: rest =>
      let (items, rest) ← readItems bound (skipBlanks rest)
      return (v :: items, rest)
    | ']' :: rest => return ([v], rest)
    | _ => none

/-- Reads the fields of a document after its opening brace. -/
def readFields : Nat → List Char → Option (List (String × Value) × List Char)
  | 0, _ => none
  | bound + 1, s =>
    match s with
    | '\x22' :: rest => do
      let (name, rest) ← readText rest
      match skipBlanks rest with
      | ':' :: rest =>
        let (v, rest) ← readValue bound (skipBlanks rest)
        match skipBlanks rest with
        | ',' :: rest =>
          let (fields, rest) ← readFields bound (skipBlanks rest)
          return ((name, v) :: fields, rest)
        | '\x7d' :: rest => return ([(name, v)], rest)
        | _ => none
      | _ => none
    | _ => none

end

/-- Reads a text that holds one value and nothing else. -/
def parse? (text : String) : Option Value :=
  let s := text.toList
  match readValue (2 * s.length + 2) (skipBlanks s) with
  | some (v, rest) => if (skipBlanks rest).isEmpty then some v else none
  | none => none

end ShapeCodec.Json
