/-
# The shortest decimal of a double

Many decimals round to one double: those of an interval around it. Of them `Binary.shortest`
takes one with the fewest digits, and of these the nearest to the double, a tie going to the
even last digit. It walks grids of powers of ten from coarse to fine. On each grid only the two
neighbours of the double can be the answer, for if any point of the grid lies in the interval
then one of these two does. All arithmetic is on whole numbers.

Key definitions: `Cell`, `Cell.onGrid?`, `Binary.shortest`.
-/
import ShapeCodec.Number.Binary

namespace ShapeCodec

/-- The number `digits * 10 ^ exponent`. -/
structure Decimal where
  digits : Nat
  exponent : Int
deriving DecidableEq

/-- The numbers that round to one double, in units of `2 ^ unit`: from `low` to `high`, the ends
included if `closed`. -/
structure Cell where
  low : Nat
  centre : Nat
  high : Nat
  unit : Int
  closed : Bool

/-- The cell of a finite double, in quarters of its last place. Below a power of two the
neighbours stand twice as close, except at the bottom of the range. -/
def Binary.cell (b : Binary) : Cell :=
  let below := if b.mantissa = Nat.pow 2 52 ∧ -1074 < b.exponent then 1 else 2
  ⟨4 * b.mantissa - below, 4 * b.mantissa, 4 * b.mantissa + 2, b.exponent - 2,
    b.mantissa % 2 == 0⟩

/-- The count of decimal digits of a number; zero has one. -/
def digitCount (n : Nat) : Nat := (Nat.toDigits 10 n).length

/-- What a number of units is multiplied by, and what a number of steps of the grid `10 ^ place`
is multiplied by, so that the two can be compared. -/
def Cell.scales (c : Cell) (place : Int) : Nat × Nat :=
  (Nat.pow 2 c.unit.toNat * Nat.pow 10 (-place).toNat,
    Nat.pow 2 (-c.unit).toNat * Nat.pow 10 place.toNat)

/-- Whether `k` steps of the grid `10 ^ place` lie in the cell. -/
def Cell.holds (c : Cell) (place : Int) (k : Nat) : Bool :=
  let (units, steps) := c.scales place
  if c.closed then decide (c.low * units ≤ k * steps ∧ k * steps ≤ c.high * units)
  else decide (c.low * units < k * steps ∧ k * steps < c.high * units)

/-- The point of the grid `10 ^ place` that stands for the cell, if the cell holds any: the
nearer of the two neighbours of the centre, the even one in a tie. -/
def Cell.onGrid? (c : Cell) (place : Int) : Option Nat :=
  let (units, steps) := c.scales place
  let below := c.centre * units / steps
  let above := below + 1
  let rest := c.centre * units - below * steps
  match c.holds place below, c.holds place above with
  | true, true =>
    if 2 * rest < steps ∨ (2 * rest = steps ∧ below % 2 = 0) then some below else some above
  | true, false => some below
  | false, true => some above
  | false, false => none

/-- The power of ten of the first digit of the centre. -/
def Cell.leading (c : Cell) : Int :=
  let (units, steps) := c.scales 0
  if steps ≤ c.centre * units then (digitCount (c.centre * units / steps) : Int) - 1
  else -(digitCount ((steps - 1) / (c.centre * units)) : Int)

/-- The first of the grids with one to seventeen digits on which the cell has a point.
Seventeen digits tell all doubles apart, so the last grid always has one. -/
def Cell.shortest (c : Cell) : Decimal :=
  ((List.range 17).findSome? fun n =>
    let place := c.leading - Int.ofNat n
    (c.onGrid? place).map fun k => ⟨k, place⟩).getD ⟨0, 0⟩

/-- The shortest decimal that reads back as a finite double, its sign left aside. -/
def Binary.shortest (b : Binary) : Decimal :=
  if b.mantissa = 0 then ⟨0, 0⟩ else b.cell.shortest

end ShapeCodec
