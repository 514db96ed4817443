/-
# Doubles as text

How a double is written, and how decimal text is read as one. Written text has the shortest
digits that read back. It is positional from `10 ^ (-4)` up to, not including, `10 ^ 16`, with
at least one digit after the point; any other size has an exponent with a sign and at least two
digits. The words for the values that are not finite are the writer's choice: `Spelling`.

Reading rounds to the nearest double, ties to even. A number too large becomes infinite.

Key definitions: `Spelling`, `Spelling.write`, `floatOfDecimal`, `floatOfText?`.
-/
import ShapeCodec.Number.Shortest

namespace ShapeCodec

/-- The words for the doubles that are not finite; a minus is put before the infinite one. -/
structure Spelling where
  nan : String
  infinity : String

/-- The spelling of numbers in messages. -/
def Spelling.plain : Spelling := ⟨"nan", "inf"⟩

/-- The digits of a number without its trailing zeros; zero keeps one digit. -/
def significantDigits (n : Nat) : List Char :=
  match ((Nat.toDigits 10 n).reverse.dropWhile (· == '0')).reverse with
  | [] => ['0']
  | digits => digits

/-- An exponent: a sign and at least two digits. -/
def writeExponent (e : Int) : List Char :=
  let digits := Nat.toDigits 10 e.natAbs
  let padded := if digits.length < 2 then '0' :: digits else digits
  (if e < 0 then '-' else '+') :: padded

/-- Writes digits of which the first stands for `10 ^ leading`. -/
def writeDigits (digits : List Char) (leading : Int) : List Char :=
  if leading < -4 ∨ 16 ≤ leading then
    let fraction := if digits.length ≤ 1 then [] else '.' :: digits.drop 1
    digits.take 1 ++ fraction ++ 'e' :: writeExponent leading
  else if leading < 0 then
    '0' :: '.' :: (List.replicate ((-leading).toNat - 1) '0' ++ digits)
  else
    let count := leading.toNat + 1
    let whole := digits.take count ++ List.replicate (count - digits.length) '0'
    let fraction := if digits.length ≤ count then ['0'] else digits.drop count
    whole ++ '.' :: fraction

/-- Writes a decimal. -/
def Decimal.write (d : Decimal) : List Char :=
  writeDigits (significantDigits d.digits) (d.exponent + digitCount d.digits - 1)

/-- The text of a double. -/
def Spelling.write (s : Spelling) (x : Float) : String :=
  match Parts.ofFloat x with
  | .nan => s.nan
  | .infinite negative => if negative then "-" ++ s.infinity else s.infinity
  | .finite b =>
    let text := String.ofList b.shortest.write
    if b.negative then "-" ++ text else text

/-- The double nearest to `digits * 10 ^ exponent`, ties to even. Numbers far outside the range
of doubles are answered without their power of ten. -/
def floatOfDecimal (negative : Bool) (digits : Nat) (exponent : Int) : Float :=
  let size := exponent + digitCount digits
  let magnitude : Float :=
    if digits = 0 ∨ size < -330 then 0.0
    else if 310 < size then 1.0 / 0.0
    else Float.ofScientific digits (decide (exponent < 0)) exponent.natAbs
  if negative then -magnitude else magnitude

/-- The value of a row of digits. -/
def natOfDigits (digits : List Char) : Nat :=
  digits.foldl (fun n c => 10 * n + (c.toNat - '0'.toNat)) 0

/-- A signed row of at least one digit. -/
def intOfText? : List Char → Option Int
  | '-' :: digits => magnitude digits |>.map fun n => -(n : Int)
  | '+' :: digits => magnitude digits |>.map Int.ofNat
  | digits => magnitude digits |>.map Int.ofNat
where
  /-- The value of a row of at least one digit and nothing else. -/
  magnitude (digits : List Char) : Option Nat :=
    if digits.isEmpty || !digits.all Char.isDigit then none else some (natOfDigits digits)

/-- Decimal text without a sign: digits with or without a point, and then an exponent or
nothing. -/
def decimalOfText? (negative : Bool) (text : List Char) : Option Float :=
  let whole := text.takeWhile Char.isDigit
  let afterWhole := text.dropWhile Char.isDigit
  let (fraction, rest) :=
    match afterWhole with
    | '.' :: tail => (tail.takeWhile Char.isDigit, tail.dropWhile Char.isDigit)
    | tail => ([], tail)
  if whole.isEmpty && fraction.isEmpty then none
  else
    let digits := natOfDigits (whole ++ fraction)
    let places : Int := fraction.length
    match rest with
    | [] => some (floatOfDecimal negative digits (-places))
    | mark :: exponent =>
      if mark == 'e' || mark == 'E' then
        (intOfText? exponent).map fun e => floatOfDecimal negative digits (e - places)
      else none

/-- Reads a double from decimal text or one of the plain words for a value that is not
finite. -/
def floatOfText? (text : String) : Option Float :=
  match text with
  | "nan" => some (0.0 / 0.0)
  | "inf" => some (1.0 / 0.0)
  | "-inf" => some (-(1.0 / 0.0))
  | _ =>
    match text.toList with
    | '-' :: rest => decimalOfText? true rest
    | '+' :: rest => decimalOfText? false rest
    | rest => decimalOfText? false rest

/-! ### At the edges

Where positional notation begins and ends, the smallest double, the sign of zero, and what lies
outside the doubles. -/

example : Spelling.plain.write (Float.ofBits 0x4341c37937e08000) = "1e+16" := by decide +kernel

example : Spelling.plain.write (Float.ofBits 0x4341c37937e07fff) = "9999999999999998.0" := by
  decide +kernel

example : Spelling.plain.write (Float.ofBits 0x3f1a36e2eb1c432d) = "0.0001" := by decide +kernel

example : Spelling.plain.write (Float.ofBits 0x3ee4f8b588e368f1) = "1e-05" := by decide +kernel

example : Spelling.plain.write (Float.ofBits 1) = "5e-324" := by decide +kernel

example : Spelling.plain.write (Float.ofBits 0x8000000000000000) = "-0.0" := by decide +kernel

example : (floatOfText? "1e400").map Float.toBits = some 0x7ff0000000000000 := by decide +kernel

example : (floatOfText? "-1e-400").map Float.toBits = some 0x8000000000000000 := by
  decide +kernel

end ShapeCodec
