import ShadeTree.Proofs.Generation.Derivation
import ShadeTree.Proofs.Meaning.Environment

/-!
What trees of built-in nodes mean.

The value of a tree is given directly in an environment, under a stack of frames, without a builder
and without the texts that the tree is compiled to. A text that the author of a graph brings has the
value that it has on its own.
-/

namespace ShadeTree

open Number Reading

/-- A value of an environment with its type. -/
structure Meaning (V : Type) where
  type : ValueType
  value : V

namespace Environment

variable {V : Type} (environment : Environment V)

def zero : V :=
  environment.number (Binary.zero false)

def one : V :=
  environment.number (Single.ofWord 0x3f800000)

def vector (type : ValueType) (lanes : List V) : V :=
  environment.call type.wgsl lanes

/-- A scalar fills the lanes of a vector, but the fourth one is one. -/
def splat? (value : V) : ValueType → Option V
  | .f32 => some value
  | .vec2 => some (environment.vector .vec2 [value])
  | .vec3 => some (environment.vector .vec3 [value])
  | .vec4 => some (environment.vector .vec4 [value, value, value, environment.one])
  | .mat4 => none

/-- The conversions between types. Missing lanes are zero, a missing fourth lane is one, and a
matrix is not converted. -/
def convert? (source target : ValueType) (value : V) : Option V :=
  if source = target then some value
  else
    match source, target with
    | .f32, target => environment.splat? value target
    | .vec2, .vec3 => some (environment.vector .vec3 [value, environment.zero])
    | .vec2, .vec4 => some (environment.vector .vec4 [value, environment.zero, environment.one])
    | .vec3, .vec4 => some (environment.vector .vec4 [value, environment.one])
    | .vec2, .f32 | .vec3, .f32 | .vec4, .f32 => some (environment.member value "x")
    | .vec3, .vec2 | .vec4, .vec2 => some (environment.member value "xy")
    | .vec4, .vec3 => some (environment.member value "xyz")
    | _, _ => none

/-- The operands of an operation in their common type. -/
def promote? (left right : Meaning V) : Option (V × V × ValueType) :=
  if left.type = right.type then some (left.value, right.value, left.type)
  else if left.type = .f32 ∧ right.type.isVector then
    (environment.splat? left.value right.type).map (·, right.value, right.type)
  else if right.type = .f32 ∧ left.type.isVector then
    (environment.splat? right.value left.type).map (left.value, ·, left.type)
  else none

def field (config : Config) (member : String) : V :=
  environment.leaf (config.inputName ++ "." ++ member)

def normal (config : Config) : NormalSpace → V
  | .object => environment.field config config.normalField
  | .view => environment.call "normalize" [environment.field config config.viewNormalField]
  | .world =>
    let direction :=
      environment.vector .vec4 [environment.field config config.viewNormalField, environment.zero]
    let turned := environment.binary .times direction (environment.leaf config.viewMatrix)
    environment.call "normalize" [environment.member turned "xyz"]

def sample (name : String) (coordinate level : V) : V :=
  environment.call "textureSampleLevel"
    [environment.texture name, environment.sampler name, coordinate, level]

theorem convert_revalued (atom : String → V) :
    (environment.revalued atom).convert? = environment.convert? := rfl

theorem promote_revalued (atom : String → V) :
    (environment.revalued atom).promote? = environment.promote? := rfl

variable {environment} {atom : String → V} {config : Config}

/-- A member of the input means the same when its atom keeps its value. -/
theorem field_revalued
    (fields : ∀ member, atom (config.inputName ++ "." ++ member) =
      environment.atom (config.inputName ++ "." ++ member)) (member : String) :
    (environment.revalued atom).field config member = environment.field config member :=
  leaf_revalued (fields member)

/-- Of the names in a normal there are but the fields of the inputs and the matrix of the view. -/
theorem normal_revalued
    (fields : ∀ member, atom (config.inputName ++ "." ++ member) =
      environment.atom (config.inputName ++ "." ++ member))
    (viewMatrix : atom config.viewMatrix = environment.atom config.viewMatrix) (space : NormalSpace) :
    (environment.revalued atom).normal config space = environment.normal config space := by
  unfold normal
  rw [leaf_revalued viewMatrix, field_revalued fields, field_revalued fields]
  rfl

end Environment

def BinaryOperation.operator : BinaryOperation → Operator
  | .add => .plus
  | .multiply => .times

/-- The meaning of a demand under a stack of frames. -/
inductive Denotes {V : Type} (alphabet : Alphabet) (environment : Environment V) (config : Config) :
    Frames Empty → Demand → Meaning V → Prop
  | expression {frames : Frames Empty} {id : NodeId} {snippet : String} {type output : ValueType}
      {value : V} (known : environment.meaning? alphabet snippet = some value) :
      Denotes alphabet environment config frames (.raw (.expression id snippet type) output)
        ⟨type, value⟩
  | float {frames : Frames Empty} {id : NodeId} {value : Single} {isConst : Bool}
      {output : ValueType} :
      Denotes alphabet environment config frames (.raw (.float id value isConst) output)
        ⟨.f32, environment.number value⟩
  | normal {frames : Frames Empty} {id : NodeId} {space : NormalSpace} {output : ValueType} :
      Denotes alphabet environment config frames (.raw (.normal id space) output)
        ⟨.vec3, environment.normal config space⟩
  | context {frames : Frames Empty} {id : NodeId} {type : Option ValueType}
      {overrides : Frame Empty} {child : Node Empty} {output : ValueType} {meaning : Meaning V}
      (inside : Denotes alphabet environment config (overrides :: frames) (.node child output)
        meaning) :
      Denotes alphabet environment config frames (.raw (.context id type overrides child) output)
        meaning
  | override {frames : Frames Empty} {id : NodeId} {key : String} {fallback : Node Empty}
      {output : ValueType} {value : Value Empty} {meaning : Meaning V}
      (found : frames.find? key = some value)
      (inside : Denotes alphabet environment config frames (.value value output) meaning) :
      Denotes alphabet environment config frames (.raw (.reader id key fallback) output) meaning
  | fallback {frames : Frames Empty} {id : NodeId} {key : String} {fallback : Node Empty}
      {output : ValueType} {meaning : Meaning V} (missing : frames.find? key = none)
      (inside : Denotes alphabet environment config frames (.node fallback output) meaning) :
      Denotes alphabet environment config frames (.raw (.reader id key fallback) output) meaning
  | sample {frames : Frames Empty} {id : NodeId} {texture : String} {output : ValueType}
      {coordinate roughness : Meaning V}
      (addressed : Denotes alphabet environment config frames .coordinate coordinate)
      (addressing : coordinate.type = .vec2 ∨ coordinate.type = .vec3)
      (blurred : Denotes alphabet environment config frames .roughness roughness) :
      Denotes alphabet environment config frames (.raw (.sample id texture) output)
        ⟨.vec4, environment.sample texture coordinate.value
          (environment.binary .times roughness.value (environment.number config.envMaxMip))⟩
  | binary {frames : Frames Empty} {id : NodeId} {operation : BinaryOperation}
      {left right : Node Empty} {output type : ValueType} {first second : Meaning V}
      {leftValue rightValue : V}
      (leftDone : Denotes alphabet environment config frames (.node left left.type) first)
      (rightDone : Denotes alphabet environment config frames (.node right right.type) second)
      (promoted : environment.promote? first second = some (leftValue, rightValue, type)) :
      Denotes alphabet environment config frames (.raw (.binary id operation left right) output)
        ⟨type, environment.binary operation.operator leftValue rightValue⟩
  | mix {frames : Frames Empty} {id : NodeId} {left right factor : Node Empty}
      {output type : ValueType} {first second third : Meaning V} {leftValue rightValue : V}
      (leftDone : Denotes alphabet environment config frames (.node left left.type) first)
      (rightDone : Denotes alphabet environment config frames (.node right right.type) second)
      (promoted : environment.promote? first second = some (leftValue, rightValue, type))
      (factorDone : Denotes alphabet environment config frames (.node factor .f32) third) :
      Denotes alphabet environment config frames (.raw (.mix id left right factor) output)
        ⟨type, environment.call "mix" [leftValue, rightValue, third.value]⟩
  | converted {frames : Frames Empty} {node : Node Empty} {output : ValueType} {meaning : Meaning V}
      {value : V} (inside : Denotes alphabet environment config frames (.raw node output) meaning)
      (conversion : environment.convert? meaning.type output meaning.value = some value) :
      Denotes alphabet environment config frames (.node node output) ⟨output, value⟩
  | tree {frames : Frames Empty} {tree : Node Empty} {output : ValueType} {meaning : Meaning V}
      (inside : Denotes alphabet environment config frames (.node tree output) meaning) :
      Denotes alphabet environment config frames (.value (.node tree) output) meaning
  | literal {frames : Frames Empty} {snippet : Snippet} {output : ValueType} {original value : V}
      (known : environment.meaning? alphabet snippet.text = some original)
      (conversion : environment.convert? snippet.type output original = some value) :
      Denotes alphabet environment config frames (.value (.literal snippet) output) ⟨output, value⟩
  | redirected {frames : Frames Empty} {value : Value Empty} {meaning : Meaning V}
      (found : frames.find? uvKey = some value)
      (inside : Denotes alphabet environment config frames (.value value value.type) meaning) :
      Denotes alphabet environment config frames .coordinate meaning
  | input {frames : Frames Empty} (missing : frames.find? uvKey = none) :
      Denotes alphabet environment config frames .coordinate
        ⟨.vec2, environment.field config config.uvField⟩
  | rough {frames : Frames Empty} {value : Value Empty} {meaning : Meaning V}
      (found : frames.find? roughnessKey = some value)
      (inside : Denotes alphabet environment config frames (.value value .f32) meaning) :
      Denotes alphabet environment config frames .roughness meaning
  | smooth {frames : Frames Empty} (missing : frames.find? roughnessKey = none) :
      Denotes alphabet environment config frames .roughness ⟨.f32, environment.zero⟩

/-- A demand has one meaning at most, by induction on the derivation of the first one. -/
theorem Denotes.unique {V : Type} {alphabet : Alphabet} {environment : Environment V}
    {config : Config} {frames : Frames Empty} {demand : Demand} {first second : Meaning V}
    (left : Denotes alphabet environment config frames demand first)
    (right : Denotes alphabet environment config frames demand second) : first = second := by
  induction left generalizing second with
  | expression known =>
      cases right with
      | expression other =>
          rw [known] at other
          cases other
          rfl
  | float | normal => cases right; rfl
  | context inside ih =>
      cases right with
      | context other => exact ih other
  | override found inside ih =>
      cases right with
      | override same other =>
          rw [found] at same
          cases same
          exact ih other
      | fallback missing other =>
          rw [found] at missing
          cases missing
  | fallback missing inside ih =>
      cases right with
      | override found other =>
          rw [missing] at found
          cases found
      | fallback same other => exact ih other
  | sample addressed addressing blurred ihCoordinate ihRoughness =>
      cases right with
      | sample otherAddressed _ otherBlurred =>
          rw [ihCoordinate otherAddressed, ihRoughness otherBlurred]
  | binary leftDone rightDone promoted ihLeft ihRight =>
      cases right with
      | binary otherLeft otherRight otherPromoted =>
          rw [← ihLeft otherLeft, ← ihRight otherRight, promoted] at otherPromoted
          cases otherPromoted
          rfl
  | mix leftDone rightDone promoted factorDone ihLeft ihRight ihFactor =>
      cases right with
      | mix otherLeft otherRight otherPromoted otherFactor =>
          rw [← ihLeft otherLeft, ← ihRight otherRight, promoted] at otherPromoted
          cases otherPromoted
          rw [ihFactor otherFactor]
  | converted inside conversion ih =>
      cases right with
      | converted other otherConversion =>
          rw [← ih other, conversion] at otherConversion
          cases otherConversion
          rfl
  | tree inside ih =>
      cases right with
      | tree other => exact ih other
  | literal known conversion =>
      cases right with
      | literal otherKnown otherConversion =>
          rw [known] at otherKnown
          cases otherKnown
          rw [conversion] at otherConversion
          cases otherConversion
          rfl
  | redirected found inside ih =>
      cases right with
      | redirected same other =>
          rw [found] at same
          cases same
          exact ih other
      | input missing =>
          rw [found] at missing
          cases missing
  | input missing =>
      cases right with
      | redirected found other =>
          rw [missing] at found
          cases found
      | input => rfl
  | rough found inside ih =>
      cases right with
      | rough same other =>
          rw [found] at same
          cases same
          exact ih other
      | smooth missing =>
          rw [found] at missing
          cases missing
  | smooth missing =>
      cases right with
      | rough found other =>
          rw [missing] at found
          cases found
      | smooth => rfl

end ShadeTree
