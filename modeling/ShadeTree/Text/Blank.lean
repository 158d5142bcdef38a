/-!
White space and letter case of spellings.
-/

namespace ShadeTree.Text

/-- These are the characters with the Unicode property White_Space. -/
def isBlank (character : Char) : Bool :=
  let code := character.toNat
  (0x09 ≤ code && code ≤ 0x0d) || code == 0x20 || code == 0x85 || code == 0xa0 ||
    code == 0x1680 || (0x2000 ≤ code && code ≤ 0x200a) || code == 0x2028 || code == 0x2029 ||
    code == 0x202f || code == 0x205f || code == 0x3000

def trim (text : String) : String :=
  String.ofList ((text.toList.dropWhile isBlank).reverse.dropWhile isBlank).reverse

/-- A spelling is compared without the white space around it and with A to Z in lower case. -/
def fold (text : String) : String :=
  String.ofList ((trim text).toList.map Char.toLower)

def isBlankText (text : String) : Bool :=
  text.toList.all isBlank

end ShadeTree.Text
