/-
# Doubles as exact numbers

A finite double is a sign, a whole number and a power of two. This module takes a double apart
into these, says which whole numbers a double can hold after rounding, and compares a double
with a whole number without rounding either.

Key definitions: `Parts.ofFloat`, `floatOfInt?`, `floatEqInt`.
-/
namespace ShapeCodec

/-- The number `mantissa * 2 ^ exponent` under a sign. Zero keeps its sign. -/
structure Binary where
  negative : Bool
  mantissa : Nat
  exponent : Int
deriving DecidableEq

/-- What a double is: not a number, infinite, or a finite number. -/
inductive Parts where
  | nan
  | infinite (negative : Bool)
  | finite (number : Binary)
deriving DecidableEq

/-- Reads the 64 bits of a double: a sign bit, eleven bits of exponent, 52 bits of fraction.
The least exponent field stands for numbers without the leading one, the greatest for the
values that are not finite. -/
def Parts.ofBits (bits : Nat) : Parts :=
  let negative := decide (Nat.pow 2 63 ≤ bits)
  let field : Nat := bits / Nat.pow 2 52 % 2048
  let fraction : Nat := bits % Nat.pow 2 52
  if field = 2047 then
    if fraction = 0 then .infinite negative else .nan
  else if field = 0 then
    .finite ⟨negative, fraction, -1074⟩
  else
    .finite ⟨negative, Nat.pow 2 52 + fraction, Int.ofNat field - 1075⟩

/-- The parts of a double. -/
def Parts.ofFloat (x : Float) : Parts := Parts.ofBits x.toBits.toNat

/-- The signed mantissa. -/
def Binary.signed (b : Binary) : Int :=
  if b.negative then -(b.mantissa : Int) else b.mantissa

/-- Whether a finite double is exactly the whole number `n`. -/
def Binary.isInt (b : Binary) (n : Int) : Bool :=
  if 0 ≤ b.exponent then b.signed * Int.pow 2 b.exponent.toNat == n
  else b.signed == n * Int.pow 2 (-b.exponent).toNat

/-- Whether a double is exactly the whole number `n`; neither is rounded. -/
def floatEqInt (x : Float) (n : Int) : Bool :=
  match Parts.ofFloat x with
  | .finite b => b.isInt n
  | _ => false

/-- The least whole number that rounds to `2 ^ 1024`, past every double: it lies half way
between the greatest double and `2 ^ 1024`, and a tie goes to the even neighbour. -/
def overflowBound : Nat := Nat.pow 2 1024 - Nat.pow 2 970

/-- The double nearest to a whole number, ties to even, if the number is not too large. -/
def floatOfInt? (n : Int) : Option Float :=
  if n.natAbs < overflowBound then
    let magnitude := Float.ofScientific n.natAbs false 0
    some (if n < 0 then -magnitude else magnitude)
  else none

theorem floatOfInt?_ofNat {n : Nat} (h : n < overflowBound) :
    floatOfInt? n = some (Float.ofScientific n false 0) := by
  have hn : ¬ (n : Int) < 0 := by omega
  simp [floatOfInt?, h, hn]

end ShapeCodec
