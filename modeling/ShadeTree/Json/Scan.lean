import ShadeTree.Json.Tree

/-!
The tree of a text.
-/

namespace ShadeTree.Json

open Number

def isSpace (character : Char) : Bool :=
  character == ' ' || character == '\n' || character == '\t' || character == '\r'

def skipSpace (text : List Char) : List Char :=
  text.dropWhile isSpace

/-! ### Words -/

/-- The word is expected at the start of the text. -/
def scanWord : (word text : List Char) → Except Problem (List Char)
  | [], text => .ok text
  | _ :: _, [] => .error .truncated
  | expected :: word, character :: text =>
    if character = expected then scanWord word text else .error .malformed

/-! ### Numbers -/

def scanDigits (text : List Char) : List Char × List Char :=
  (text.takeWhile Char.isDigit, text.dropWhile Char.isDigit)

/-- At least one digit is expected at the start of the text. -/
def scanDigits1 (text : List Char) : Except Problem (List Char × List Char) :=
  match text with
  | [] => .error .cutNumber
  | character :: _ => if character.isDigit then .ok (scanDigits text) else .error .malformed

/-- No digit follows a zero at the start. -/
def scanWhole (text : List Char) : Except Problem (List Char × List Char) :=
  match text with
  | '0' :: rest =>
    if rest.head?.any Char.isDigit then .error .malformed else .ok (['0'], rest)
  | _ => scanDigits1 text

def scanFraction (text : List Char) : Except Problem (List Char × List Char) :=
  match text with
  | '.' :: rest => scanDigits1 rest
  | _ => .ok ([], text)

def scanExponent (text : List Char) : Except Problem (Option (Sign × List Char) × List Char) :=
  let digits (sign : Sign) (rest : List Char) :=
    (scanDigits1 rest).map fun (digits, rest) => (some (sign, digits), rest)
  let signed (rest : List Char) :=
    match rest with
    | '+' :: rest => digits .plus rest
    | '-' :: rest => digits .minus rest
    | _ => digits .absent rest
  match text with
  | 'e' :: rest => signed rest
  | 'E' :: rest => signed rest
  | _ => .ok (none, text)

def scanNumeral (text : List Char) : Except Problem (Numeral × List Char) := do
  let (negative, text) :=
    match text with
    | '-' :: rest => (true, rest)
    | _ => (false, text)
  let (whole, text) ← scanWhole text
  let (fraction, text) ← scanFraction text
  let (exponent, text) ← scanExponent text
  return (⟨negative, whole, fraction, exponent⟩, text)

/-! ### Strings -/

def hexValue? (digit : Char) : Option Nat :=
  if digit.isDigit then some (digit.toNat - '0'.toNat)
  else if 'a' ≤ digit ∧ digit ≤ 'f' then some (digit.toNat - 'a'.toNat + 10)
  else if 'A' ≤ digit ∧ digit ≤ 'F' then some (digit.toNat - 'A'.toNat + 10)
  else none

def hexQuad? (first second third fourth : Char) : Option Nat := do
  return (((← hexValue? first) * 16 + (← hexValue? second)) * 16 + (← hexValue? third)) * 16 +
    (← hexValue? fourth)

def shortEscape? : Char → Option Char
  | '"' => some '"'
  | '\\' => some '\\'
  | '/' => some '/'
  | 'b' => some '\x08'
  | 'f' => some '\x0c'
  | 'n' => some '\n'
  | 'r' => some '\r'
  | 't' => some '\t'
  | _ => none

/-- What is known of a text while it is scanned. -/
structure Content where
  /-- The characters so far, the last one first. -/
  characters : List Char
  /-- The first half of a surrogate pair, if it has just been escaped. -/
  lead : Option Nat
  /-- Every escape so far names a character. -/
  sound : Bool

namespace Content

def empty : Content := ⟨[], none, true⟩

/-- Half a pair in front of a character names none. -/
def push (content : Content) (character : Char) : Content :=
  ⟨character :: content.characters, none, content.sound && content.lead.isNone⟩

def isLead (code : Nat) : Bool := 0xd800 ≤ code && code ≤ 0xdbff

def isTrail (code : Nat) : Bool := 0xdc00 ≤ code && code ≤ 0xdfff

def pairCode (lead trail : Nat) : Nat :=
  0x10000 + (lead - 0xd800) * 0x400 + (trail - 0xdc00)

/-- Two escaped halves make one character. -/
def pushCode (content : Content) (code : Nat) : Content :=
  match content.lead with
  | some lead =>
    if isTrail code then
      ⟨Char.ofNat (pairCode lead code) :: content.characters, none, content.sound⟩
    else ⟨content.characters, none, false⟩
  | none =>
    if isLead code then ⟨content.characters, some code, content.sound⟩
    else if isTrail code then ⟨content.characters, none, false⟩
    else content.push (Char.ofNat code)

def close (content : Content) : Option String :=
  if content.sound && content.lead.isNone then some (String.ofList content.characters.reverse)
  else none

def cut (content : Content) : Problem :=
  if content.sound then .truncated else .cutText

end Content

/-- The text behind an opening quote is scanned up to its closing quote. Four bytes are taken
after the start of a code escape, so a text that ends before them is cut short there. -/
def scanText (content : Content) : List Char → Except Problem (Option String × List Char)
  | [] => .error content.cut
  | '"' :: rest => .ok (content.close, rest)
  | '\\' :: 'u' :: first :: second :: third :: fourth :: rest =>
    match hexQuad? first second third fourth with
    | some code => scanText (content.pushCode code) rest
    | none => .error .malformed
  | '\\' :: 'u' :: rest =>
    .error (if (String.ofList rest).utf8ByteSize < 4 then content.cut else .malformed)
  | '\\' :: escaped :: rest =>
    match shortEscape? escaped with
    | some character => scanText (content.push character) rest
    | none => .error .malformed
  | ['\\'] => .error content.cut
  | character :: rest =>
    if character < ' ' then .error .malformed else scanText (content.push character) rest

/-! ### Values -/

/-- The rest of the text behind a value; none behind a fault. -/
abbrev Rest := Option (List Char)

def scanLeaf {α : Type} (make : α → Json) : Except Problem (α × List Char) → Json × Rest
  | .ok (content, rest) => (make content, some rest)
  | .error problem => (.broken problem, none)

def scanName (value : Json) (word text : List Char) : Json × Rest :=
  scanLeaf (fun _ => value) ((scanWord word text).map ((), ·))

mutual

/-- Three nested calls take at least one character, which bounds the fuel that is needed. -/
def scanValue : (fuel : Nat) → List Char → Json × Rest
  | 0, _ => (.broken .truncated, none)
  | fuel + 1, text =>
    match skipSpace text with
    | [] => (.broken .truncated, none)
    | 'n' :: rest => scanName .null ['u', 'l', 'l'] rest
    | 't' :: rest => scanName (.flag true) ['r', 'u', 'e'] rest
    | 'f' :: rest => scanName (.flag false) ['a', 'l', 's', 'e'] rest
    | '"' :: rest => scanLeaf .string (scanText .empty rest)
    | '[' :: rest =>
      let (items, rest) := scanItems fuel true rest
      (.array items, rest)
    | '\x7b' :: rest =>
      let (members, rest) := scanMembers fuel true rest
      (.object members, rest)
    | character :: rest =>
      if character == '-' || character.isDigit then
        scanLeaf .number (scanNumeral (character :: rest))
      else (.broken .malformed, none)

/-- Only the first item has no comma in front of it. -/
def scanItems : (fuel : Nat) → (first : Bool) → List Char → Items × Rest
  | 0, _, _ => (.stop .truncated, none)
  | fuel + 1, first, text =>
    match skipSpace text with
    | [] => (.stop .truncated, none)
    | ']' :: rest => (.close, some rest)
    | character :: rest =>
      if first then scanItem fuel (character :: rest)
      else if character == ',' then scanItem fuel rest
      else (.stop .malformed, none)

def scanItem : (fuel : Nat) → List Char → Items × Rest
  | 0, _ => (.stop .truncated, none)
  | fuel + 1, text =>
    match scanValue fuel text with
    | (value, none) => (.item value (.stop .malformed), none)
    | (value, some rest) =>
      let (items, rest) := scanItems fuel false rest
      (.item value items, rest)

def scanMembers : (fuel : Nat) → (first : Bool) → List Char → Members × Rest
  | 0, _, _ => (.stop .truncated, none)
  | fuel + 1, first, text =>
    match skipSpace text with
    | [] => (.stop .truncated, none)
    | '\x7d' :: rest => (.close, some rest)
    | character :: rest =>
      if first then scanMember fuel (character :: rest)
      else if character == ',' then scanMember fuel (skipSpace rest)
      else (.stop .malformed, none)

def scanMember : (fuel : Nat) → List Char → Members × Rest
  | 0, _ => (.stop .truncated, none)
  | fuel + 1, text =>
    match text with
    | [] => (.stop .truncated, none)
    | '"' :: text =>
      match scanText .empty text with
      | .error problem => (.stop problem, none)
      | .ok (key, text) =>
        match skipSpace text with
        | [] => (.member key (.broken .truncated) (.stop .malformed), none)
        | ':' :: text =>
          match scanValue fuel text with
          | (value, none) => (.member key value (.stop .malformed), none)
          | (value, some rest) =>
            let (members, rest) := scanMembers fuel false rest
            (.member key value members, rest)
        | _ => (.member key (.broken .malformed) (.stop .malformed), none)
    | _ => (.stop .malformed, none)

end

/-- The tree of a text and what follows the first value in it. -/
def scan (text : String) : Json × Rest :=
  let characters := text.toList
  scanValue (3 * characters.length + 3) characters

end ShadeTree.Json
