import ShadeTree.Json.Tree

/-!
The compact text of a JSON tree. Faults have no text.
-/

namespace ShadeTree.Json

open Number

def hexDigit (value : Nat) : Char :=
  if value < 10 then Char.ofNat ('0'.toNat + value) else Char.ofNat ('a'.toNat + (value - 10))

/-- Besides the quote and the backslash only characters below the space are escaped. -/
def escape (character : Char) : List Char :=
  match character with
  | '"' => ['\\', '"']
  | '\\' => ['\\', '\\']
  | '\x08' => ['\\', 'b']
  | '\x0c' => ['\\', 'f']
  | '\n' => ['\\', 'n']
  | '\r' => ['\\', 'r']
  | '\t' => ['\\', 't']
  | _ =>
    if character < ' ' then
      ['\\', 'u', '0', '0', hexDigit (character.toNat / 16), hexDigit (character.toNat % 16)]
    else [character]

def renderString (content : String) : List Char :=
  '"' :: content.toList.flatMap escape ++ ['"']

mutual

def render : Json → List Char
  | .null => ['n', 'u', 'l', 'l']
  | .flag true => ['t', 'r', 'u', 'e']
  | .flag false => ['f', 'a', 'l', 's', 'e']
  | .number numeral => numeral.toList
  | .string content => content.elim [] renderString
  | .array items => '[' :: renderItems true items
  | .object members => '\x7b' :: renderMembers true members
  | .broken _ => []

def renderItems (first : Bool) : Items → List Char
  | .close => [']']
  | .stop _ => []
  | .item value rest =>
    (if first then [] else [',']) ++ render value ++ renderItems false rest

def renderMembers (first : Bool) : Members → List Char
  | .close => ['\x7d']
  | .stop _ => []
  | .member key value rest =>
    (if first then [] else [',']) ++ key.elim [] renderString ++ ':' :: render value ++
      renderMembers false rest

end

def text (json : Json) : String :=
  String.ofList json.render

def ofString (content : String) : Json :=
  .string (some content)

def ofList (values : List Json) : Json :=
  .array (.ofList values)

def ofFields (fields : List (String × Json)) : Json :=
  .object (.ofList fields)

def ofOption {α : Type} (encode : α → Json) : Option α → Json
  | none => .null
  | some value => encode value

end ShadeTree.Json
