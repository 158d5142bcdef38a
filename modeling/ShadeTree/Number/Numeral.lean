/-!
Decimal numerals: an optional minus, digits, an optional fraction and an optional exponent.
-/

namespace ShadeTree.Number

/-- How the sign of an exponent is written; one without a sign is not negative. -/
inductive Sign where
  | absent
  | plus
  | minus
  deriving DecidableEq

def Sign.toList : Sign → List Char
  | absent => []
  | plus => ['+']
  | minus => ['-']

/-- An empty fraction stands for a numeral without a point. -/
structure Numeral where
  negative : Bool
  whole : List Char
  fraction : List Char
  exponent : Option (Sign × List Char)
  deriving DecidableEq

namespace Numeral

def toList (numeral : Numeral) : List Char :=
  (if numeral.negative then ['-'] else []) ++ numeral.whole ++
    (if numeral.fraction.isEmpty then [] else '.' :: numeral.fraction) ++
    match numeral.exponent with
    | none => []
    | some (sign, digits) => 'e' :: sign.toList ++ digits

def text (numeral : Numeral) : String :=
  String.ofList numeral.toList

end Numeral

def digitValue (digit : Char) : Nat :=
  digit.toNat - '0'.toNat

def digitsValue (digits : List Char) : Nat :=
  digits.foldl (fun value digit => 10 * value + digitValue digit) 0

def decimalDigits (number : Nat) : List Char :=
  Nat.toDigits 10 number

/-- A word has 64 bits. -/
def wordLimit : Nat := 0x10000000000000000

end ShadeTree.Number
