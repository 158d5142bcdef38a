import ShadeTree.Number.Numeral
import ShadeTree.Number.Binary

/-!
The number that a numeral stands for.

Integers of 64 bits are exact. Any other numeral is read in double precision: its leading digits,
as many as an unsigned integer of 64 bits holds, are scaled by a power of ten, and every step is
rounded.
-/

namespace ShadeTree.Number

/-- What a numeral is read as. -/
inductive Quantity where
  | natural (value : Nat)
  /-- The value is `-value`. -/
  | negative (value : Nat)
  | real (value : Double)
  deriving DecidableEq

namespace Double

/-- The magnitude nearest to ten to the given power. -/
def tenPower (exponent : Nat) : Nat :=
  Format.double.round (Nat.pow 10 exponent) 1

def exact (magnitude : Nat) : Nat :=
  Format.double.significand magnitude * Nat.pow 2 (Format.double.scale magnitude)

/-- The magnitude nearest to the product of two magnitudes. -/
def product (left right : Nat) : Nat :=
  Format.double.round (exact left * exact right) (Nat.pow 2 (2 * Format.double.bias))

/-- The magnitude nearest to the quotient of two magnitudes. -/
def quotient (left right : Nat) : Nat :=
  Format.double.round (exact left) (exact right)

end Double

namespace Numeral

/-- The greatest power of ten below infinity. -/
def greatestPower : Nat := 308

/-- A negative power beyond the greatest one is applied in two steps; two full steps leave zero. -/
def shrink (magnitude exponent : Nat) : Nat :=
  if exponent ≤ greatestPower then Double.quotient magnitude (Double.tenPower exponent)
  else
    let first := Double.quotient magnitude (Double.tenPower greatestPower)
    if exponent ≤ 2 * greatestPower then
      Double.quotient first (Double.tenPower (exponent - greatestPower))
    else 0

/-- The magnitude of `digits * 10 ^ exponent`, or none beyond the finite ones. -/
def scaled? (digits : Nat) (exponent : Int) : Option Nat :=
  let magnitude := Format.double.round digits 1
  if exponent < 0 then some (shrink magnitude exponent.natAbs)
  else if exponent.natAbs ≤ greatestPower then
    let product := Double.product magnitude (Double.tenPower exponent.natAbs)
    if product < Format.double.infinity then some product else none
  else if digits = 0 then some 0
  else none

/-- Leading digits are taken into the integer as long as it stays below the word limit; the
second component is how many digits are left over. -/
def leading (value : Nat) : List Char → Nat × Nat
  | [] => (value, 0)
  | digit :: rest =>
    let extended := 10 * value + digitValue digit
    if extended < wordLimit then leading extended rest
    else (value, rest.length + 1)

def exponentValue : Option (Sign × List Char) → Int
  | none => 0
  | some (.minus, digits) => -(digitsValue digits : Int)
  | some (.absent, digits) | some (.plus, digits) => digitsValue digits

def real? (numeral : Numeral) : Option Double :=
  let (whole, droppedWhole) := leading 0 numeral.whole
  let (digits, droppedFraction) := leading whole numeral.fraction
  let taken : Int := numeral.fraction.length - droppedFraction
  (scaled? digits (droppedWhole - taken + exponentValue numeral.exponent)).map
    (⟨numeral.negative, ·⟩)

/-- None stands for a number beyond the finite ones. A minus before zero is kept, so `-0` is not
an integer. -/
def quantity? (numeral : Numeral) : Option Quantity :=
  let value := digitsValue numeral.whole
  if !numeral.fraction.isEmpty || numeral.exponent.isSome then numeral.real?.map .real
  else if !numeral.negative && value < wordLimit then some (.natural value)
  else if numeral.negative && 0 < value && value ≤ wordLimit / 2 then some (.negative value)
  else numeral.real?.map .real

end Numeral

namespace Quantity

def single : Quantity → Single
  | .natural value => ⟨false, Format.single.round value 1⟩
  | .negative value => ⟨true, Format.single.round value 1⟩
  | .real value => value.convert .single

end Quantity

end ShadeTree.Number
