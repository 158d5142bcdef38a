import ShadeTree.Builder
import ShadeTree.Proofs.Reading.Precedence
import ShadeTree.Proofs.Reading.Term

/-!
Environments give values to shader expressions.

The operations of an environment are arbitrary, and so are the values of names, which are known by
their texts. Only numerals have the values of the numbers that they are read as.
-/

namespace ShadeTree

open Number Reading

/-- The number with the other sign. -/
def Number.Binary.negated {format : Format} (number : Binary format) : Binary format :=
  { number with negative := !number.negative }

/-- Values with uninterpreted operations. -/
structure Environment (V : Type) where
  /-- The value of a name, or of the member of a name, by its text. -/
  atom : String → V
  number : Single → V
  unary : Operator → V → V
  binary : Operator → V → V → V
  member : V → String → V
  index : V → V → V
  call : String → List V → V
  /-- A texture and its sampler, by the name of the texture in the graph. -/
  texture : String → V
  sampler : String → V
  /-- A minus in front of a number makes it the number with the other sign. -/
  negated : ∀ value : Single, unary .minus (number value) = number value.negated

namespace Environment

variable {V : Type} (environment : Environment V)

def leaf (text : String) : V :=
  match Single.ofText? text with
  | some value => environment.number value
  | none => environment.atom text

mutual

/-- The value of an expression. Parentheses have no effect of their own. -/
def eval : Expression → V
  | .atom text => environment.leaf text
  | .unary operator operand => environment.unary operator (eval operand)
  | .binary operator left right => environment.binary operator (eval left) (eval right)
  | .group inner => eval inner
  | .member object name => environment.member (eval object) name
  | .index object position => environment.index (eval object) (eval position)
  | .call callee arguments => environment.call callee (evalAll arguments)

def evalAll : List Expression → List V
  | [] => []
  | expression :: rest => eval expression :: evalAll rest

end

/-- The environment in which names have other values. -/
def revalued (atom : String → V) : Environment V :=
  { environment with atom }

/-- The value of a text; none if the text is not an expression. -/
def meaning? (alphabet : Alphabet) (text : String) : Option V :=
  (alphabet.read? text).map environment.eval

/-- In the environment, the declarations of a module hold: a local has the value of its initializer,
and the variables of a binding are its texture and its sampler. -/
structure Realizes (alphabet : Alphabet) (locals : List LocalVariable)
    (textures : List TextureBinding) : Prop where
  locals : ∀ declared ∈ locals,
    environment.meaning? alphabet declared.initializer = some (environment.leaf declared.name)
  textures : ∀ binding ∈ textures,
    environment.leaf (Identifier.textureVariable binding.name) = environment.texture binding.name ∧
      environment.leaf (Identifier.samplerVariable binding.name) = environment.sampler binding.name

variable {environment} {alphabet : Alphabet} {atom : String → V}

/-- A text means the same when its atom keeps its value. -/
theorem leaf_revalued {text : String} (kept : atom text = environment.atom text) :
    (environment.revalued atom).leaf text = environment.leaf text := by
  unfold leaf
  cases Single.ofText? text with
  | none => exact kept
  | some value => rfl

mutual

/-- An expression keeps its value if the names in it keep theirs, by induction on the expression. -/
theorem eval_revalued : {expression : Expression} →
    (∀ text, .atom text ∈ expression.parts → atom text = environment.atom text) →
    (environment.revalued atom).eval expression = environment.eval expression
  | .atom text, kept => by
      rw [eval, eval, leaf_revalued (kept text (List.mem_singleton_self _))]
  | .unary operator operand, kept => by
      rw [eval, eval, eval_revalued fun text part => kept text (.tail _ part)]
      rfl
  | .binary operator left right, kept => by
      rw [eval, eval, eval_revalued fun text part => kept text (.tail _ (List.mem_append_left _ part)),
        eval_revalued fun text part => kept text (.tail _ (List.mem_append_right _ part))]
      rfl
  | .group inner, kept => by
      rw [eval, eval, eval_revalued fun text part => kept text (.tail _ part)]
  | .member object name, kept => by
      rw [eval, eval, eval_revalued fun text part => kept text (.tail _ part)]
      rfl
  | .index object position, kept => by
      rw [eval, eval, eval_revalued fun text part => kept text (.tail _ (List.mem_append_left _ part)),
        eval_revalued fun text part => kept text (.tail _ (List.mem_append_right _ part))]
      rfl
  | .call callee arguments, kept => by
      rw [eval, eval, evalAll_revalued fun text part => kept text (.tail _ part)]
      rfl

/-- Expressions mean the same when all atoms in them keep their values. -/
theorem evalAll_revalued : {expressions : List Expression} →
    (∀ text, .atom text ∈ Expression.partsAll expressions → atom text = environment.atom text) →
    (environment.revalued atom).evalAll expressions = environment.evalAll expressions
  | [], _ => rfl
  | expression :: rest, kept => by
      rw [evalAll, evalAll, eval_revalued fun text part => kept text (List.mem_append_left _ part),
        evalAll_revalued fun text part => kept text (List.mem_append_right _ part)]

end

/-- Joined lists are evaluated one after the other. -/
theorem evalAll_append (first second : List Expression) :
    environment.evalAll (first ++ second) =
      environment.evalAll first ++ environment.evalAll second := by
  induction first with
  | nil => rfl
  | cons expression rest ih => rw [List.cons_append, evalAll, ih, evalAll, List.cons_append]

theorem evalAll_replicate (copies : Nat) (expression : Expression) :
    environment.evalAll (List.replicate copies expression) =
      List.replicate copies (environment.eval expression) := by
  induction copies with
  | zero => rfl
  | succ copies ih => rw [List.replicate_succ, evalAll, ih, List.replicate_succ]

/-- The literal of a finite number has the value of the number. -/
theorem eval_literal {value : Single} (finite : value.isFinite) :
    environment.eval (.ofNumeral (value.numeral .literal)) = environment.number value := by
  have read := Single.ofText_literal finite
  obtain ⟨negative, magnitude⟩ := value
  rw [Expression.ofNumeral, Binary.numeral_negative]
  cases negative with
  | true =>
      rw [if_pos rfl, eval, eval, leaf, read]
      exact environment.negated _
  | false =>
      rw [if_neg Bool.false_ne_true, eval, leaf, read]

/-- A literal means its number in every environment. -/
theorem meaning_literal {value : Single} {text : String} (written : value.literal? = some text) :
    environment.meaning? alphabet text = some (environment.number value) := by
  obtain ⟨read, finite⟩ := alphabet.read_literal written
  rw [meaning?, read, Option.map_some, eval_literal finite]

end Environment

end ShadeTree
