import ShadeTree.Generation
import ShadeTree.Proofs.Generation.Supply

/-!
Derivations of expressions.

A successful generation of a tree of built-in nodes is a derivation: there is one rule for each kind
of node, and the rules say which expressions the node asks for, in which order, and how the builder
goes from one to the next. Properties of generated expressions are proved by induction on it. What
the author of a graph brings to an expression comes from a supply.
-/

namespace ShadeTree

open Number

/-- What can be asked of a builder. A node is asked for raw as long as its result is not yet
converted. -/
inductive Demand where
  | raw (node : Node Empty) (output : ValueType)
  | node (node : Node Empty) (output : ValueType)
  | value (value : Value Empty) (output : ValueType)
  | coordinate
  | roughness

/-- The expression that a builder gives for a demand, and the builder afterwards. -/
inductive Generates (supply : Supply Empty) :
    Builder Empty → Demand → TypedTerm → Builder Empty → Prop
  | expression {builder : Builder Empty} {id : NodeId} {snippet : String} {type output : ValueType}
      (supplied : supply.has (.node (.expression id snippet type))) :
      Generates supply builder (.raw (.expression id snippet type) output)
        ⟨type, .verbatim snippet, false⟩ builder
  | inlined {builder : Builder Empty} {id : NodeId} {value : Single} {output : ValueType}
      (finite : value.isFinite) :
      Generates supply builder (.raw (.float id value true) output) ⟨.f32, .number value, true⟩ builder
  | declared {builder : Builder Empty} {id : NodeId} {value : Single} {output : ValueType}
      {text : String} (supplied : supply.has (.node (.float id value false)))
      (written : value.literal? = some text) :
      Generates supply builder (.raw (.float id value false) output)
        ⟨.f32, .name (builder.declareLocal id .f32 text).1, false⟩
        (builder.declareLocal id .f32 text).2
  | normal {builder : Builder Empty} {id : NodeId} {space : NormalSpace} {output : ValueType} :
      Generates supply builder (.raw (.normal id space) output)
        ⟨.vec3, builder.config.normal space, false⟩ builder
  | context {builder after : Builder Empty} {id : NodeId} {type : Option ValueType}
      {overrides : Frame Empty} {child : Node Empty} {output : ValueType} {expression : TypedTerm}
      (inside : Generates supply (builder.enter overrides) (.node child output) expression after) :
      Generates supply builder (.raw (.context id type overrides child) output) expression
        (after.leave builder)
  | override {builder after : Builder Empty} {id : NodeId} {key : String} {fallback : Node Empty}
      {output : ValueType} {value : Value Empty} {expression : TypedTerm}
      (found : builder.find? key = some value)
      (inside : Generates supply builder (.value value output) expression after) :
      Generates supply builder (.raw (.reader id key fallback) output) expression after
  | fallback {builder after : Builder Empty} {id : NodeId} {key : String} {fallback : Node Empty}
      {output : ValueType} {expression : TypedTerm} (missing : builder.find? key = none)
      (inside : Generates supply builder (.node fallback output) expression after) :
      Generates supply builder (.raw (.reader id key fallback) output) expression after
  | sample {builder first second last : Builder Empty} {id : NodeId} {texture : String}
      {output : ValueType} {coordinate roughness : TypedTerm} {dimension : Dimension} {index : Nat}
      (supplied : supply.has (.node (.sample id texture)))
      (addressed : Generates supply builder .coordinate coordinate first)
      (dimensioned : Dimension.ofCoordinate? coordinate.type = some dimension)
      (blurred : Generates supply first .roughness roughness second)
      (finite : second.config.envMaxMip.isFinite)
      (registered : second.registerTexture texture dimension = .ok (index, last)) :
      Generates supply builder (.raw (.sample id texture) output)
        ⟨.vec4, .sample (Identifier.textureVariable texture) (Identifier.samplerVariable texture)
          coordinate.term (.product roughness.term (.number second.config.envMaxMip)), false⟩ last
  | binary {builder middle last : Builder Empty} {id : NodeId} {operation : BinaryOperation}
      {left right : Node Empty} {output type : ValueType}
      {first second firstOperand secondOperand : TypedTerm}
      (leftDone : Generates supply builder (.node left left.type) first middle)
      (rightDone : Generates supply middle (.node right right.type) second last)
      (unified : first.unify second = .ok (firstOperand, secondOperand, type)) :
      Generates supply builder (.raw (.binary id operation left right) output)
        ⟨type, operation.term firstOperand.term secondOperand.term,
          firstOperand.isConst && secondOperand.isConst⟩ last
  | mix {builder middle later last : Builder Empty} {id : NodeId} {left right factor : Node Empty}
      {output type : ValueType} {first second third firstOperand secondOperand : TypedTerm}
      (leftDone : Generates supply builder (.node left left.type) first middle)
      (rightDone : Generates supply middle (.node right right.type) second later)
      (unified : first.unify second = .ok (firstOperand, secondOperand, type))
      (factorDone : Generates supply later (.node factor .f32) third last) :
      Generates supply builder (.raw (.mix id left right factor) output)
        ⟨type, .mix firstOperand.term secondOperand.term third.term,
          firstOperand.isConst && secondOperand.isConst && third.isConst⟩ last
  | converted {builder after : Builder Empty} {node : Node Empty} {output : ValueType}
      {expression result : TypedTerm} (inside : Generates supply builder (.raw node output) expression after)
      (conversion : expression.coerce output = .ok result) :
      Generates supply builder (.node node output) result after
  | tree {builder after : Builder Empty} {tree : Node Empty} {output : ValueType}
      {expression : TypedTerm} (inside : Generates supply builder (.node tree output) expression after) :
      Generates supply builder (.value (.node tree) output) expression after
  | literal {builder : Builder Empty} {snippet : Snippet} {output : ValueType}
      {expression : TypedTerm} (supplied : supply.has (.literal snippet))
      (conversion : snippet.typed.coerce output = .ok expression) :
      Generates supply builder (.value (.literal snippet) output) expression builder
  | redirected {builder after : Builder Empty} {value : Value Empty} {expression : TypedTerm}
      (found : builder.find? uvKey = some value)
      (inside : Generates supply builder (.value value value.type) expression after) :
      Generates supply builder .coordinate expression after
  | input {builder : Builder Empty} (missing : builder.find? uvKey = none) :
      Generates supply builder .coordinate builder.config.coordinate builder
  | rough {builder after : Builder Empty} {value : Value Empty} {expression : TypedTerm}
      (found : builder.find? roughnessKey = some value)
      (inside : Generates supply builder (.value value .f32) expression after) :
      Generates supply builder .roughness expression after
  | smooth {builder : Builder Empty} (missing : builder.find? roughnessKey = none) :
      Generates supply builder .roughness ⟨.f32, .number (Binary.zero false), true⟩ builder

end ShadeTree
