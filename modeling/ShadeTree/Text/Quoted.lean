import ShadeTree.Text.Hidden

/-!
Texts in double quotes, as messages show them.
-/

namespace ShadeTree.Text

def hexDigits (number : Nat) : List Char :=
  Nat.toDigits 16 number

/-- A hidden character without a short escape is shown by its code in hexadecimal digits. -/
def escape (character : Char) : List Char :=
  match character with
  | '"' => ['\\', '"']
  | '\\' => ['\\', '\\']
  | '\n' => ['\\', 'n']
  | '\r' => ['\\', 'r']
  | '\t' => ['\\', 't']
  | '\x00' => ['\\', '0']
  | _ =>
    if isHidden character then
      ['\\', 'u', '\x7b'] ++ hexDigits character.toNat ++ ['\x7d']
    else [character]

def quote (text : String) : String :=
  String.ofList ('"' :: text.toList.flatMap escape ++ ['"'])

end ShadeTree.Text
