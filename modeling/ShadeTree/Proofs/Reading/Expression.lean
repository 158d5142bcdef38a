import ShadeTree.Proofs.Reading.Token

/-!
The expressions that tokens make up.

A reader goes through the tokens with a stack of open brackets. On each level it keeps the operands
that wait for the right side of their operator; an operator takes those that bind as tightly as
itself or tighter.
-/

namespace ShadeTree

/-- A shader expression as it is read. -/
inductive Expression where
  | atom (text : String)
  | unary (operator : Operator) (operand : Expression)
  | binary (operator : Operator) (left right : Expression)
  | group (inner : Expression)
  | member (object : Expression) (name : String)
  | index (object position : Expression)
  | call (callee : String) (arguments : List Expression)

namespace Expression

def isBinary : Expression → Bool
  | binary .. => true
  | _ => false

/-- The sign next to the operand comes first. -/
def signed (signs : List Operator) (operand : Expression) : Expression :=
  signs.foldl (fun inner sign => .unary sign inner) operand

end Expression

namespace Operator

/-- The tighter an operator binds, the higher its precedence. -/
def precedence : Operator → Nat
  | or => 1
  | and => 2
  | bitOr => 3
  | bitXor => 4
  | bitAnd => 5
  | equal | unequal | less | atMost | greater | atLeast => 6
  | shiftLeft | shiftRight => 7
  | plus | minus => 8
  | times | divide | remainder => 9
  | not | complement => 0

def isUnary : Operator → Bool
  | minus | not | complement | times | bitAnd => true
  | _ => false

def isBinary : Operator → Bool
  | not | complement => false
  | _ => true

end Operator

namespace Reading

/-- The bracket that a level stands in. -/
inductive Opening where
  | whole
  | group
  | call (callee : String)
  | index (object : Expression)

/-- What has been read on one level, each list in reverse order. -/
structure Level where
  opening : Opening
  arguments : List Expression
  /-- Left operands with their operators. -/
  waiting : List (Expression × Operator)
  signs : List Operator
  /-- None as long as an operand is expected. -/
  operand : Option Expression

namespace Level

def start (opening : Opening) : Level :=
  ⟨opening, [], [], [], none⟩

end Level

/-- Waiting operands whose operators bind at least as tightly take the operand as their right side. -/
def reduce (bound : Nat) (operand : Expression) :
    List (Expression × Operator) → Expression × List (Expression × Operator)
  | [] => (operand, [])
  | (left, operator) :: outer =>
    if bound ≤ operator.precedence then reduce bound (.binary operator left operand) outer
    else (operand, (left, operator) :: outer)

namespace Level

/-- The expression that a level ends with. -/
def value (level : Level) (operand : Expression) : Expression :=
  (reduce 0 (.signed level.signs operand) level.waiting).1

end Level

/-- What a token does: it changes the level, opens one, or closes it with its expression. -/
inductive Move where
  | stay (level : Level)
  | open (level inner : Level)
  | close (result : Expression)

/-- An operand is expected. -/
def expect (level : Level) : Token → Option Move
  | .atom text => some (.stay { level with operand := some (.atom text) })
  | .operator operator =>
    if operator.isUnary then some (.stay { level with signs := operator :: level.signs }) else none
  | .openGroup => some (.open level (.start .group))
  | .closeGroup =>
    match level.opening, level.waiting, level.signs with
    | .call callee, [], [] => some (.close (.call callee level.arguments.reverse))
    | _, _, _ => none
  | _ => none

/-- There is an operand already. -/
def extend (level : Level) (operand : Expression) : Token → Option Move
  | .member name => some (.stay { level with operand := some (.member operand name) })
  | .operator operator =>
    if operator.isBinary then
      let (left, outer) := reduce operator.precedence (.signed level.signs operand) level.waiting
      some (.stay { level with waiting := (left, operator) :: outer, signs := [], operand := none })
    else none
  | .openGroup =>
    match operand with
    | .atom callee => some (.open { level with operand := none } (.start (.call callee)))
    | _ => none
  | .openIndex => some (.open { level with operand := none } (.start (.index operand)))
  | .comma =>
    match level.opening with
    | .call callee =>
      some (.stay ⟨.call callee, level.value operand :: level.arguments, [], [], none⟩)
    | _ => none
  | .closeGroup =>
    match level.opening with
    | .group => some (.close (.group (level.value operand)))
    | .call callee => some (.close (.call callee (level.value operand :: level.arguments).reverse))
    | _ => none
  | .closeIndex =>
    match level.opening with
    | .index object => some (.close (.index object (level.value operand)))
    | _ => none
  | .atom _ => none

def move (level : Level) (token : Token) : Option Move :=
  match level.operand with
  | none => expect level token
  | some operand => extend level operand token

/-- The innermost level comes first. -/
def advance : List Level → Token → Option (List Level)
  | [], _ => none
  | level :: outer, token =>
    match move level token, outer with
    | some (.stay changed), _ => some (changed :: outer)
    | some (.open changed inner), _ => some (inner :: changed :: outer)
    | some (.close result), enclosing :: rest =>
      some ({ enclosing with operand := some result } :: rest)
    | some (.close _), [] | none, _ => none

def finish : List Level → Option Expression
  | [⟨.whole, arguments, waiting, signs, some operand⟩] =>
    some (Level.value ⟨.whole, arguments, waiting, signs, some operand⟩ operand)
  | _ => none

/-- The expression that the tokens are, if they are one. -/
def parse? (tokens : List Token) : Option Expression :=
  (tokens.foldlM advance [.start .whole]).bind finish

end Reading

/-- The expression that a text is, read with the precedence of the operators. -/
def Alphabet.read? (alphabet : Alphabet) (text : String) : Option Expression :=
  (Reading.tokens? alphabet text).bind Reading.parse?

example : (⟨Identifier.isWordCharacter, fun _ _ => rfl⟩ : Alphabet).read? "a + f(b, 1.0) * -c.x" =
    some (.binary .plus (.atom "a")
      (.binary .times (.call "f" [.atom "b", .atom "1.0"]) (.unary .minus (.atom "c.x")))) := rfl

end ShadeTree
