import ShadeTree.Number.Binary

/-!
The shortest decimal that rounds to a given binary number.

The reals that round to a number form an interval around it, whose ends belong to it if the
significand is even. The shortest decimal lies on the coarsest power-of-ten grid that meets the
interval; of two grid points inside it is the nearer.
-/

namespace ShadeTree.Number

/-- The decimal stands for `digits * 10 ^ exponent`. -/
structure Decimal where
  digits : Nat
  exponent : Int
  deriving DecidableEq

/-- Which of two equally near decimals is taken. -/
inductive Tie where
  | upper
  | even
  deriving DecidableEq

/-- The point of a tie between a grid point and the next one. -/
def Tie.choose (tie : Tie) (below : Nat) : Nat :=
  match tie with
  | upper => below + 1
  | even => below + below % 2

/-- The interval of a positive number, its ends and centre counted in quarters of the unit of the
format. -/
structure Interval where
  low : Nat
  centre : Nat
  high : Nat
  closed : Bool
  deriving DecidableEq

namespace Interval

/-- Below the first significand of a scale the neighbour is only half as far. -/
def around (format : Format) (magnitude : Nat) : Interval :=
  let significand := format.significand magnitude
  let scale := format.scale magnitude
  let halved := significand == Nat.pow 2 format.fractionBits && 0 < scale
  let unit := Nat.pow 2 scale
  { low := (4 * significand - if halved then 1 else 2) * unit
    centre := 4 * significand * unit
    high := (4 * significand + 2) * unit
    closed := significand % 2 == 0 }

/-- The point of the grid, in quarters of the unit, is `point * step / split`. -/
def contains (interval : Interval) (step split point : Nat) : Bool :=
  if interval.closed then
    interval.low * split ≤ point * step && point * step ≤ interval.high * split
  else
    interval.low * split < point * step && point * step < interval.high * split

/-- The two grid points next to the centre are tried. -/
def gridPoint? (interval : Interval) (tie : Tie) (step split : Nat) : Option Nat :=
  let below := interval.centre * split / step
  match interval.contains step split below, interval.contains step split (below + 1) with
  | true, true =>
    let twice := 2 * (interval.centre * split)
    let middle := (2 * below + 1) * step
    if twice < middle then some below
    else if middle < twice then some (below + 1)
    else some (tie.choose below)
  | true, false => some below
  | false, true => some (below + 1)
  | false, false => none

/-- The grid of the multiples of `10 ^ exponent`, as a step and a split in quarters of the unit. -/
def grid (format : Format) (exponent : Int) : Nat × Nat :=
  (4 * Nat.pow 2 format.bias * Nat.pow 10 exponent.toNat, Nat.pow 10 (-exponent).toNat)

/-- The grids are tried from the coarsest on. -/
def search (format : Format) (tie : Tie) (interval : Interval) (exponent : Int) :
    (grids : Nat) → Decimal
  | 0 => ⟨0, exponent⟩
  | grids + 1 =>
    let (step, split) := grid format exponent
    match interval.gridPoint? tie step split with
    | some digits => ⟨digits, exponent⟩
    | none => interval.search format tie (exponent - 1) grids

end Interval

/-- No number of the format reaches ten to this power. -/
def Format.decimalBound (format : Format) : Nat :=
  Nat.pow 2 (format.exponentBits - 1)

/-- On the grid of ten to the power of minus the bias every number is a grid point. -/
def shortest (format : Format) (tie : Tie) (magnitude : Nat) : Decimal :=
  (Interval.around format magnitude).search format tie format.decimalBound
    (format.decimalBound + format.bias + 1)

end ShadeTree.Number
