import ShadeTree.ValueType
import ShadeTree.Number.Style

/-!
Shader expressions as terms, and their text.
-/

namespace ShadeTree

open Number

/-- A constant lane of a vector. -/
inductive Pad where
  | zero
  | one
  deriving DecidableEq

def Pad.text : Pad → String
  | zero => "0.0"
  | one => "1.0"

/-- Terms keep the structure that their text shows only through parentheses. -/
inductive Term where
  /-- The text is taken over as it is. -/
  | verbatim (text : String)
  | number (value : Single)
  | name (identifier : String)
  | field (object member : String)
  | group (inner : Term)
  | lanes (value : Term) (count : Nat)
  /-- A vector is made of copies of one value and of constant lanes behind them. -/
  | vector (type : ValueType) (copies : Nat) (value : Term) (pads : List Pad)
  | sum (left right : Term)
  | product (left right : Term)
  | mix (left right factor : Term)
  | normalize (value : Term)
  | sample (texture sampler : String) (coordinate level : Term)
  deriving DecidableEq

namespace Term

def laneNames (count : Nat) : String :=
  String.ofList (['x', 'y', 'z', 'w'].take count)

def arguments (parts : List String) : String :=
  "(" ++ ", ".intercalate parts ++ ")"

/-- Sums and products carry their own parentheses. -/
def text : Term → String
  | verbatim text => text
  | number value => (value.numeral .literal).text
  | name identifier => identifier
  | field object member => object ++ "." ++ member
  | group inner => "(" ++ inner.text ++ ")"
  | lanes value count => value.text ++ "." ++ laneNames count
  | vector type copies value pads =>
    type.wgsl ++ arguments (List.replicate copies value.text ++ pads.map Pad.text)
  | sum left right => "(" ++ left.text ++ " + " ++ right.text ++ ")"
  | product left right => "(" ++ left.text ++ " * " ++ right.text ++ ")"
  | mix left right factor => "mix" ++ arguments [left.text, right.text, factor.text]
  | normalize value => "normalize" ++ arguments [value.text]
  | sample texture sampler coordinate level =>
    "textureSampleLevel" ++ arguments [texture, sampler, coordinate.text, level.text]

end Term

/-- A constant expression may be inlined anywhere. -/
structure TypedTerm where
  type : ValueType
  term : Term
  isConst : Bool
  deriving DecidableEq

def TypedTerm.text (expression : TypedTerm) : String :=
  expression.term.text

/-- A ready expression, given as text by the author of a graph. -/
structure Snippet where
  text : String
  type : ValueType
  isConst : Bool
  deriving DecidableEq

def Snippet.typed (snippet : Snippet) : TypedTerm :=
  ⟨snippet.type, .verbatim snippet.text, snippet.isConst⟩

end ShadeTree
