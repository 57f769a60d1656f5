/-!
# Shortest decimals

A binary number of limited precision stands for an interval of reals: those that are rounded to it.
This module finds the decimal with the fewest digits in such an interval and, of two such decimals,
the one nearer to the number. All arithmetic is exact, on natural numbers.

The digits are found on the grids of the multiples of a power of ten, the coarsest first: if a
multiple lies in the interval, so does one of the two neighbours of the number on that grid.
-/

namespace TextDiagram

/-- The decimal `digits * 10 ^ exponent`. -/
structure Decimal where
  /-- The significant digits, read as a whole number. -/
  digits : Nat
  /-- The power of ten that the digits count. -/
  exponent : Int
  deriving DecidableEq, Repr

/-- A positive number and the reals that are rounded to it, counted in units of a power of two. -/
structure RoundingInterval where
  /-- The lower end of the interval. -/
  lower : Nat
  /-- The number itself. -/
  value : Nat
  /-- The upper end of the interval. -/
  upper : Nat
  /-- The exponent of the power of two that is the unit. -/
  unit : Int
  /-- Whether the ends belong to the interval. -/
  closed : Bool
  deriving DecidableEq, Repr

namespace RoundingInterval

/-- The factor that, together with `gridStep`, compares a count of units with a multiple of
`10 ^ exponent`: a count `n` lies at the multiple `n * unitStep / gridStep`. -/
def unitStep (r : RoundingInterval) (exponent : Int) : Nat :=
  Nat.pow 2 r.unit.toNat * Nat.pow 10 (-exponent).toNat

/-- The step of the grid of multiples of `10 ^ exponent` on the scale of `unitStep`. -/
def gridStep (r : RoundingInterval) (exponent : Int) : Nat :=
  Nat.pow 2 (-r.unit).toNat * Nat.pow 10 exponent.toNat

/-- Whether a position on the scale of `unitStep` is not below the interval. -/
def notBelow (r : RoundingInterval) (exponent : Int) (position : Nat) : Bool :=
  let lower := r.lower * r.unitStep exponent
  lower < position || (r.closed && lower == position)

/-- Whether a position on the scale of `unitStep` is not above the interval. -/
def notAbove (r : RoundingInterval) (exponent : Int) (position : Nat) : Bool :=
  let upper := r.upper * r.unitStep exponent
  position < upper || (r.closed && position == upper)

/-- The multiple of `10 ^ exponent` in the interval that is nearest to the number, if there is one.
Of two that are equally near it is the larger. -/
def onGrid? (r : RoundingInterval) (exponent : Int) : Option Nat :=
  let step := r.gridStep exponent
  let position := r.value * r.unitStep exponent
  let below := position / step
  match r.notBelow exponent (below * step), r.notAbove exponent ((below + 1) * step) with
  | false, false => none
  | true, false => some below
  | false, true => some (below + 1)
  | true, true => some (if 2 * (position % step) < step then below else below + 1)

/-- The exponents of the grids, the coarsest first: from `top` down to the first grid on which the
number itself lies. -/
def exponents (r : RoundingInterval) (top : Nat) : List Int :=
  (List.range (top + (-r.unit).toNat + 1)).map fun (k : Nat) => (top : Int) - k

/-- The decimal with the fewest digits in the interval, nearest to the number. The number is below
`10 ^ top`. -/
def shortest (r : RoundingInterval) (top : Nat) : Decimal :=
  ((r.exponents top).findSome? fun e => (r.onGrid? e).map fun digits => ⟨digits, e⟩).getD ⟨0, 0⟩

end RoundingInterval

end TextDiagram
