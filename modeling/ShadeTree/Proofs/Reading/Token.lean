import ShadeTree.Identifier

/-!
The tokens of shader expressions.

A text is cut from left to right, and the longest token is taken. What has been read of a token that
may still go on is pending.
-/

namespace ShadeTree

/-- The characters of names. Beyond ASCII any choice will do. -/
structure Alphabet where
  isName : Char → Bool
  ascii : ∀ character : Char, character.toNat < 128 →
    isName character = Identifier.isWordCharacter character

inductive Operator where
  | or
  | and
  | bitOr
  | bitXor
  | bitAnd
  | equal
  | unequal
  | less
  | atMost
  | greater
  | atLeast
  | shiftLeft
  | shiftRight
  | plus
  | minus
  | times
  | divide
  | remainder
  | not
  | complement
  deriving DecidableEq

namespace Operator

def ofCharacter? : Char → Option Operator
  | '|' => some bitOr
  | '^' => some bitXor
  | '&' => some bitAnd
  | '<' => some less
  | '>' => some greater
  | '+' => some plus
  | '-' => some minus
  | '*' => some times
  | '/' => some divide
  | '%' => some remainder
  | '!' => some not
  | '~' => some complement
  | _ => none

/-- The operators of two characters. -/
def ofPair? : Char → Char → Option Operator
  | '|', '|' => some or
  | '&', '&' => some and
  | '=', '=' => some equal
  | '!', '=' => some unequal
  | '<', '=' => some atMost
  | '>', '=' => some atLeast
  | '<', '<' => some shiftLeft
  | '>', '>' => some shiftRight
  | _, _ => none

def isCharacter (character : Char) : Bool :=
  character == '=' || (ofCharacter? character).isSome

end Operator

/-- An atom is a name with its members, a numeral, or a type with its parameters. -/
inductive Token where
  | atom (text : String)
  /-- The member of something that is not a name. -/
  | member (name : String)
  | operator (operator : Operator)
  | openGroup
  | closeGroup
  | openIndex
  | closeIndex
  | comma
  deriving DecidableEq

namespace Token

def ofDelimiter? : Char → Option Token
  | '(' => some openGroup
  | ')' => some closeGroup
  | '[' => some openIndex
  | ']' => some closeIndex
  | ',' => some comma
  | _ => none

/-- A point in front of a digit begins a numeral, in front of a name a member. -/
def ofWord (read : List Char) : Token :=
  match read with
  | '.' :: rest => if rest.head?.any Char.isDigit then atom (String.ofList read)
    else member (String.ofList rest)
  | _ => atom (String.ofList read)

end Token

namespace Reading

/-- A token of which more may follow. -/
inductive Pending where
  | idle
  | word (read : List Char)
  | operator (first : Char)
  /-- The parameters of a type, with how many angle brackets are open. -/
  | parameters (read : List Char) (depth : Nat)

def blanks : List Char :=
  [' ', '\t', '\n', '\x0b', '\x0c', '\r', '\u0085', '\u200e', '\u200f', '\u2028', '\u2029']

/-- The names of types that take parameters. -/
def generics : List String :=
  ["vec2", "vec3", "vec4", "mat2x2", "mat2x3", "mat2x4", "mat3x2", "mat3x3", "mat3x4", "mat4x2",
    "mat4x3", "mat4x4", "array", "bitcast"]

/-- An exponent begins with `p` in a hexadecimal numeral and with `e` in any other one. -/
def endsInExponent (read : List Char) : Bool :=
  match read with
  | '0' :: 'x' :: _ | '0' :: 'X' :: _ => read.getLast?.any fun last => last == 'p' || last == 'P'
  | first :: _ =>
    (first.isDigit || first == '.') && read.getLast?.any fun last => last == 'e' || last == 'E'
  | [] => false

variable (alphabet : Alphabet)

/-- A word has one point at most if it begins with one, so members of members are apart. -/
def continues (read : List Char) (character : Char) : Bool :=
  alphabet.isName character || (character == '.' && read.head? != some '.') ||
    ((character == '+' || character == '-') && endsInExponent read)

/-- How a pending token goes on; none if it ends in front of the character. -/
def extend? : Pending → Char → Option (List Token × Pending)
  | .idle, _ => none
  | .word read, character =>
    if continues alphabet read character then some ([], .word (read ++ [character]))
    else if character = '<' ∧ String.ofList read ∈ generics then
      some ([], .parameters (read ++ [character]) 1)
    else none
  | .operator first, character =>
    (Operator.ofPair? first character).map fun operator => ([.operator operator], .idle)
  | .parameters read depth, character =>
    if character = '>' ∧ depth = 1 then some ([], .word (read ++ [character]))
    else if character = '>' then some ([], .parameters (read ++ [character]) (depth - 1))
    else if character = '<' then some ([], .parameters (read ++ [character]) (depth + 1))
    else some ([], .parameters (read ++ [character]) depth)

/-- The token that ends; parameters cannot end without their bracket. -/
def flush : Pending → Option (List Token)
  | .idle => some []
  | .word read => some [Token.ofWord read]
  | .operator first => (Operator.ofCharacter? first).map fun operator => [.operator operator]
  | .parameters _ _ => none

def start? (character : Char) : Option (List Token × Pending) :=
  if alphabet.isName character || character == '.' then some ([], .word [character])
  else if character ∈ blanks then some ([], .idle)
  else if Operator.isCharacter character then some ([], .operator character)
  else (Token.ofDelimiter? character).map fun token => ([token], .idle)

def step (pending : Pending) (character : Char) : Option (List Token × Pending) :=
  match extend? alphabet pending character with
  | some result => some result
  | none =>
    (flush pending).bind fun ended =>
      (start? alphabet character).map fun started => (ended ++ started.1, started.2)

def scan : Pending → List Char → Option (List Token)
  | pending, [] => flush pending
  | pending, character :: rest =>
    (step alphabet pending character).bind fun found => (scan found.2 rest).map (found.1 ++ ·)

/-- The tokens of a text; none if some character does not belong to an expression. -/
def tokens? (text : String) : Option (List Token) :=
  scan alphabet .idle text.toList

/-! ### Where tokens end -/

/-- Such a character ends whatever is pending in front of it. -/
def isBoundary (character : Char) : Bool :=
  character == ' ' || character == '(' || character == ')' || character == ','

variable {alphabet} {character : Char} {pending : Pending} {first rest : List Char}
  {tokens ended later : List Token}

/-- The four characters that end every token. -/
theorem isBoundary_cases (boundary : isBoundary character) :
    character = ' ' ∨ character = '(' ∨ character = ')' ∨ character = ',' := by
  simpa [isBoundary, or_assoc] using boundary

theorem isName_boundary (boundary : isBoundary character) : alphabet.isName character = false := by
  obtain rfl | rfl | rfl | rfl := isBoundary_cases boundary
  all_goals
    rw [alphabet.ascii _ (by decide)]
    decide

/-- A boundary does not continue a token that can be ended. -/
theorem extend_boundary (boundary : isBoundary character) (flushed : flush pending = some ended) :
    extend? alphabet pending character = none := by
  cases pending with
  | idle => rfl
  | word read =>
      have name : alphabet.isName character = false := isName_boundary boundary
      obtain rfl | rfl | rfl | rfl := isBoundary_cases boundary
      all_goals simp [extend?, continues, name]
  | operator first =>
      have alone : Operator.ofPair? first character = none := by
        obtain rfl | rfl | rfl | rfl := isBoundary_cases boundary
        all_goals
          unfold Operator.ofPair?
          split
          all_goals first | rfl | contradiction
      simp [extend?, alone]
  | parameters read depth => cases flushed

/-- In front of a character that does not continue it, a pending token ends. -/
theorem scan_ended (stops : extend? alphabet pending character = none)
    (flushed : flush pending = some ended) :
    scan alphabet pending (character :: rest) =
      (scan alphabet .idle (character :: rest)).map (ended ++ ·) := by
  have idle : extend? alphabet .idle character = none := rfl
  have nothing : flush .idle = some [] := rfl
  simp only [scan, step, stops, flushed, idle, nothing]
  cases start? alphabet character with
  | none => rfl
  | some started =>
      cases scanned : scan alphabet started.2 rest with
      | none => simp [scanned]
      | some later => simp [scanned]

/-- Texts on the two sides of a boundary are cut on their own. -/
theorem scan_append (boundary : isBoundary character)
    (scanned : scan alphabet pending first = some tokens) :
    scan alphabet pending (first ++ character :: rest) =
      (scan alphabet .idle (character :: rest)).map (tokens ++ ·) := by
  induction first generalizing pending tokens with
  | nil => exact scan_ended (extend_boundary boundary scanned) scanned
  | cons head tail ih =>
      rw [scan] at scanned
      obtain ⟨⟨emitted, next⟩, stepped, mapped⟩ := Option.bind_eq_some_iff.mp scanned
      obtain ⟨later, remaining, equal⟩ := Option.map_eq_some_iff.mp mapped
      rw [List.cons_append, scan, stepped, Option.bind_some, ih remaining, ← equal]
      cases scan alphabet .idle (character :: rest) with
      | none => rfl
      | some others => simp

/-- The characters are cut into the tokens. -/
def Scans (alphabet : Alphabet) (characters : List Char) (tokens : List Token) : Prop :=
  scan alphabet .idle characters = some tokens

namespace Scans

/-- What is scanned in front of a boundary does not depend on what follows. -/
theorem append (scanned : Scans alphabet first tokens) (boundary : isBoundary character)
    (after : Scans alphabet (character :: rest) later) :
    Scans alphabet (first ++ character :: rest) (tokens ++ later) := by
  unfold Scans at scanned after ⊢
  rw [scan_append boundary scanned, after]
  rfl

theorem space (after : Scans alphabet rest tokens) : Scans alphabet (' ' :: rest) tokens := by
  have name : alphabet.isName ' ' = false := isName_boundary rfl
  unfold Scans at after ⊢
  simp [scan, step, extend?, flush, start?, name, blanks, after]

/-- A delimiter is a token of its own. -/
theorem delimiter {token : Token} (boundary : isBoundary character)
    (delimits : Token.ofDelimiter? character = some token) (after : Scans alphabet rest tokens) :
    Scans alphabet (character :: rest) (token :: tokens) := by
  have name : alphabet.isName character = false := isName_boundary boundary
  have started : start? alphabet character = some ([token], .idle) := by
    obtain rfl | rfl | rfl | rfl := isBoundary_cases boundary
    all_goals simp_all [start?, blanks, Operator.isCharacter, Operator.ofCharacter?, Token.ofDelimiter?]
  unfold Scans at after ⊢
  simp [scan, step, extend?, flush, started, after]

/-- No operator of two characters begins with such a sign. -/
theorem operator {operator : Operator}
    (sign : character = '+' ∨ character = '-' ∨ character = '*')
    (found : Operator.ofCharacter? character = some operator) (after : Scans alphabet rest tokens) :
    Scans alphabet (character :: rest) (.operator operator :: tokens) := by
  have alone : ∀ next, Operator.ofPair? character next = none := by
    intro next
    unfold Operator.ofPair?
    obtain rfl | rfl | rfl := sign
    all_goals
      split
      all_goals first | rfl | contradiction
  have started : start? alphabet character = some ([], .operator character) := by
    have name : alphabet.isName character = false := by
      obtain rfl | rfl | rfl := sign
      all_goals
        rw [alphabet.ascii _ (by decide)]
        decide
    have visible : character ∉ blanks ∧ character ≠ '.' := by
      obtain rfl | rfl | rfl := sign
      all_goals decide
    simp [start?, name, visible, Operator.isCharacter, found]
  have flushed : flush (.operator character) = some [.operator operator] := by
    simp [flush, found]
  unfold Scans at after ⊢
  rw [scan, step, extend?, flush]
  simp only [started, Option.bind_some, Option.map_some, List.nil_append]
  cases rest with
  | nil =>
      cases after
      simp [scan, flushed]
  | cons next rest =>
      rw [scan_ended (by simp [extend?, alone]) flushed, after]
      rfl

theorem nil : Scans alphabet [] [] := rfl

/-- Name characters go on with a word, and points with one that does not begin with a point. -/
theorem word_append {head : Char} {read : List Char}
    (plain : ∀ next ∈ first, alphabet.isName next ∨ next = '.' ∧ head ≠ '.') :
    scan alphabet (.word (head :: read)) (first ++ rest) =
      scan alphabet (.word (head :: (read ++ first))) rest := by
  induction first generalizing read with
  | nil => simp
  | cons next first ih =>
      have goesOn : continues alphabet (head :: read) next := by
        rcases plain next (List.mem_cons_self ..) with name | ⟨rfl, point⟩
        · simp [continues, name]
        · simp [continues, point]
      have later : scan alphabet (.word (head :: (read ++ [next]))) (first ++ rest) = _ :=
        ih fun other member => plain other (List.mem_cons_of_mem _ member)
      rw [List.cons_append, scan, step, extend?, if_pos goesOn]
      simpa using later

end Scans
end Reading
end ShadeTree
