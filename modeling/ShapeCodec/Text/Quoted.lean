/-
# Quoted text

How a text is shown inside a message: between quotes, with what cannot be shown escaped. The
quote is `'`, or `"` if the text holds `'` and no `"`. Escaped are the backslash, the quote in
use, line feed, carriage return and tab by a letter, and any other character that is not
printable by its code in hexadecimal, at least two, four or eight digits wide.

Key definitions: `quoteOf`, `escaped`, `quoted`.
-/
import ShapeCodec.Text.Printable

namespace ShapeCodec

/-- Lower-case hexadecimal digits, filled with zeros to a width. -/
def hexOf (width n : Nat) : List Char :=
  let digits := Nat.toDigits 16 n
  List.replicate (width - digits.length) '0' ++ digits

/-- The quote that is used unless the text asks for the other one. -/
def singleQuote : Char := '\x27'

/-- The quote for a text that holds the single one. -/
def doubleQuote : Char := '\x22'

/-- The quote put around a text. -/
def quoteOf (text : List Char) : Char :=
  if text.contains singleQuote && !text.contains doubleQuote then doubleQuote else singleQuote

/-- How one character is shown between two quotes `quote`. -/
def escaped (quote c : Char) : List Char :=
  if c == quote || c == '\\' then ['\\', c]
  else if c == '\n' then ['\\', 'n']
  else if c == '\r' then ['\\', 'r']
  else if c == '\t' then ['\\', 't']
  else if isPrintable c then [c]
  else if c.toNat < 0x100 then '\\' :: 'x' :: hexOf 2 c.toNat
  else if c.toNat < 0x10000 then '\\' :: 'u' :: hexOf 4 c.toNat
  else '\\' :: 'U' :: hexOf 8 c.toNat

/-- A text between quotes. -/
def quoted (text : String) : String :=
  let chars := text.toList
  let quote := quoteOf chars
  String.ofList (quote :: (chars.flatMap (escaped quote) ++ [quote]))

end ShapeCodec
