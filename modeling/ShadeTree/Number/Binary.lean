/-!
Binary floating-point numbers as words of an interchange format, and the rounding of a fraction of
natural numbers to such a word.
-/

namespace ShadeTree.Number

/-- An interchange format is given by the widths of its fraction and exponent fields. -/
structure Format where
  fractionBits : Nat
  exponentBits : Nat
  deriving DecidableEq

namespace Format

def single : Format := ⟨23, 8⟩

def double : Format := ⟨52, 11⟩

/-- The least positive number is two to the power of minus the bias. -/
def bias (format : Format) : Nat :=
  Nat.pow 2 (format.exponentBits - 1) - 2 + format.fractionBits

/-- A magnitude is a word without its sign bit; infinity has this one and NaN a larger one. -/
def infinity (format : Format) : Nat :=
  (Nat.pow 2 format.exponentBits - 1) * Nat.pow 2 format.fractionBits

/-- A finite magnitude stands for `significand * 2 ^ scale / 2 ^ bias`. Above the subnormal numbers
the first bit of the significand is implicit. -/
def significand (format : Format) (magnitude : Nat) : Nat :=
  let implicit := Nat.pow 2 format.fractionBits
  if magnitude < 2 * implicit then magnitude else magnitude % implicit + implicit

def scale (format : Format) (magnitude : Nat) : Nat :=
  magnitude / Nat.pow 2 format.fractionBits - 1

end Format

/-- The quotient is rounded to the nearest integer, and a tie goes to the even one. -/
def roundQuotient (numerator denominator : Nat) : Nat :=
  let quotient := numerator / denominator
  let twice := 2 * (numerator % denominator)
  if twice < denominator then quotient
  else if denominator < twice then quotient + 1
  else quotient + quotient % 2

/-- The magnitude nearest to the fraction, a tie going to the even one. Because the words of
adjacent numbers are adjacent, a significand that rounds up to the next power of two needs no
special case. -/
def Format.round (format : Format) (numerator denominator : Nat) : Nat :=
  let scaled := numerator * Nat.pow 2 format.bias
  let scale := (scaled / denominator).log2 - format.fractionBits
  let significand := roundQuotient scaled (denominator * Nat.pow 2 scale)
  min (scale * Nat.pow 2 format.fractionBits + significand) format.infinity

/-- A number is a sign and a magnitude, so there are two zeros. -/
structure Binary (format : Format) where
  negative : Bool
  magnitude : Nat
  deriving DecidableEq

/-- Numbers of 32 bits. -/
abbrev Single := Binary .single

/-- Numbers of 64 bits. -/
abbrev Double := Binary .double

namespace Binary

variable {format : Format}

def isFinite (number : Binary format) : Bool :=
  number.magnitude < format.infinity

def isZero (number : Binary format) : Bool :=
  number.magnitude == 0

def zero (negative : Bool) : Binary format :=
  ⟨negative, 0⟩

/-- A finite number of one format becomes the nearest one of another. -/
def convert (target : Format) (number : Binary format) : Binary target :=
  ⟨number.negative,
    target.round (format.significand number.magnitude * Nat.pow 2 (format.scale number.magnitude))
      (Nat.pow 2 format.bias)⟩

end Binary

/-- The highest bit is the sign. -/
def Single.ofWord (word : UInt32) : Single :=
  ⟨0x80000000 ≤ word.toNat, word.toNat % 0x80000000⟩

end ShadeTree.Number
