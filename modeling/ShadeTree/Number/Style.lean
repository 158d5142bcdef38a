import ShadeTree.Number.Numeral
import ShadeTree.Number.Shortest

/-!
The written forms of binary numbers.
-/

namespace ShadeTree.Number

/-- A style says which numbers are written without an exponent. The point of a number is how many
digits stand before its decimal point, counted negatively for zeros behind it. -/
structure Style where
  positional : Int → Bool
  /-- Whole numbers end in `.0`. -/
  marksWhole : Bool
  /-- The sign of an exponent that is not negative. -/
  upward : Sign
  tie : Tie

namespace Style

/-- Literals have no exponent from `0.0001` up to sixteen digits before the point, and a tie between
two decimals goes up. -/
def literal : Style :=
  ⟨fun point => -3 ≤ point && point ≤ 16, true, .absent, .upper⟩

/-- Plain numbers never have an exponent. -/
def plain : Style :=
  ⟨fun _ => true, false, .absent, .upper⟩

/-- Quoted numbers have no exponent from `0.00001` up to sixteen digits before the point, every
exponent has a sign, and a tie goes to the even decimal. -/
def quoted : Style :=
  ⟨fun point => -4 ≤ point && point ≤ 16, true, .plus, .even⟩

def wholeFraction (style : Style) : List Char :=
  if style.marksWhole then ['0'] else []

def zeros (count : Nat) : List Char :=
  List.replicate count '0'

def exponentParts (style : Style) (exponent : Int) : Sign × List Char :=
  (if exponent < 0 then .minus else style.upward, decimalDigits exponent.natAbs)

def numeral (style : Style) (negative : Bool) (decimal : Decimal) : Numeral :=
  let digits := decimalDigits decimal.digits
  let point : Int := digits.length + decimal.exponent
  if style.positional point then
    if point ≤ 0 then
      ⟨negative, ['0'], zeros (-point).toNat ++ digits, none⟩
    else if digits.length ≤ point then
      ⟨negative, digits ++ zeros (point - digits.length).toNat, style.wholeFraction, none⟩
    else
      ⟨negative, digits.take point.toNat, digits.drop point.toNat, none⟩
  else
    ⟨negative, digits.take 1, digits.drop 1, some (style.exponentParts (point - 1))⟩

end Style

namespace Binary

variable {format : Format}

/-- The numeral of a finite number. -/
def numeral (number : Binary format) (style : Style) : Numeral :=
  if number.isZero then ⟨number.negative, ['0'], style.wholeFraction, none⟩
  else style.numeral number.negative (shortest format style.tie number.magnitude)

def text (number : Binary format) (style : Style) : String :=
  if number.isFinite then (number.numeral style).text
  else if number.magnitude = format.infinity then
    if number.negative then "-inf" else "inf"
  else "NaN"

end Binary

/-- A shader has literals for finite numbers only. -/
def Single.literal? (number : Single) : Option String :=
  if number.isFinite then some (number.numeral .literal).text else none

end ShadeTree.Number
