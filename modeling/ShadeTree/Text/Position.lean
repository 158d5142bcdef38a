import ShadeTree.Number.Numeral

/-!
Positions at the end of messages: ` at line `, a number, ` column ` and a number.
-/

namespace ShadeTree.Text

open Number

/-- The text in front of the number that it ends in. The number fits into a word. -/
def beforeNumber? (text : List Char) : Option (List Char) :=
  let digits := (text.reverse.takeWhile Char.isDigit).reverse
  if digits.isEmpty || wordLimit ≤ digitsValue digits then none
  else some (text.reverse.dropWhile Char.isDigit).reverse

/-- The text in front of the position that it ends in. -/
def beforePosition? (text : List Char) : Option (List Char) := do
  let text ← beforeNumber? text
  let text ← " column ".toList.isSuffixOf? text
  let text ← beforeNumber? text
  " at line ".toList.isSuffixOf? text

/-- Of several positions only the last one is dropped. -/
def dropPosition (text : String) : String :=
  (beforePosition? text.toList).elim text String.ofList

end ShadeTree.Text
