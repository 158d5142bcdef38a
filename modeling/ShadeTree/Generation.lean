import ShadeTree.Construction
import ShadeTree.Program

/-!
Generation of expressions from nodes.

Each kind of node has a program. Generating a node runs its program, in which the nodes that it
asks for are generated in the same way, and converts the result to the type that was asked for.
-/

namespace ShadeTree

open Number

variable {Custom Host : Type}

namespace Config

/-- The surface normal. A row vector times the view matrix is turned by the inverse rotation. -/
def normal (config : Config) : NormalSpace → Term
  | .object => .field config.inputName config.normalField
  | .view => .normalize (.field config.inputName config.viewNormalField)
  | .world =>
    let direction := Term.field config.inputName config.viewNormalField
    let turned := Term.product (.vector .vec4 1 direction [.zero]) (.name config.viewMatrix)
    .normalize (.lanes turned 3)

def coordinate (config : Config) : TypedTerm :=
  ⟨.vec2, .field config.inputName config.uvField, false⟩

end Config

namespace Program

def config : Program Custom Host Config :=
  .inspect (fun builder host => (builder.config, host)) .done

def find? (key : String) : Program Custom Host (Option (Value Custom)) :=
  .inspect (fun builder host => (builder.find? key, host)) .done

def generated (node : Node Custom) (output : ValueType) : Program Custom Host TypedTerm :=
  .generate node output .done

def ofCoercion {α : Type} : Except CoercionError α → Program Custom Host α
  | .ok value => .done value
  | .error cause => .fail (.coercion cause)

/-- A literal of a number that is not finite fails. -/
def literal (value : Single) : Program Custom Host String :=
  match value.literal? with
  | some text => .done text
  | none => .fail (.notFinite value)

end Program

def Value.program (output : ValueType) : Value Custom → Program Custom Host TypedTerm
  | .node tree => .generated tree output
  | .literal snippet => .ofCoercion (snippet.typed.coerce output)

namespace BinaryOperation

def term : BinaryOperation → Term → Term → Term
  | .add => .sum
  | .multiply => .product

end BinaryOperation

namespace Node

open Program

/-- Constant numbers are inlined, others declared as locals. -/
def floatProgram (id : NodeId) (value : Single) (isConst : Bool) :
    Program Custom Host TypedTerm := do
  let text ← literal value
  if isConst then return ⟨.f32, .number value, true⟩
  else
    let name ← Program.declareLocal id .f32 text .done
    return ⟨.f32, .name name, false⟩

def readerProgram (key : String) (fallback : Node Custom) (output : ValueType) :
    Program Custom Host TypedTerm := do
  match ← Program.find? key with
  | some value => .note (.resolved key value.text) (value.program output)
  | none => generated fallback output

def coordinateProgram : Program Custom Host TypedTerm := do
  match ← Program.find? uvKey with
  | some value => value.program value.type
  | none => return (← config).coordinate

def roughnessProgram : Program Custom Host TypedTerm := do
  match ← Program.find? roughnessKey with
  | some value => value.program .f32
  | none => return ⟨.f32, .number (Binary.zero false), true⟩

/-- The level of a sample grows with the roughness up to the last mip level. -/
def sampleProgram (texture : String) : Program Custom Host TypedTerm := do
  let coordinate ← coordinateProgram
  match Dimension.ofCoordinate? coordinate.type with
  | none => .fail (.badCoordinate coordinate.type)
  | some dimension =>
    let roughness ← roughnessProgram
    let maxMip := (← config).envMaxMip
    let _ ← literal maxMip
    let _ ← Program.registerTexture texture dimension .done
    return ⟨.vec4,
      .sample (Identifier.textureVariable texture) (Identifier.samplerVariable texture)
        coordinate.term (.product roughness.term (.number maxMip)),
      false⟩

/-- Operands are generated at their own types and then get one type. -/
def operandsProgram (left right : Node Custom) :
    Program Custom Host (TypedTerm × TypedTerm × ValueType) := do
  let first ← generated left left.type
  let second ← generated right right.type
  ofCoercion (first.unify second)

def binaryProgram (operation : BinaryOperation) (left right : Node Custom) :
    Program Custom Host TypedTerm := do
  let (first, second, type) ← operandsProgram left right
  return ⟨type, operation.term first.term second.term, first.isConst && second.isConst⟩

/-- The factor is a scalar. -/
def mixProgram (left right factor : Node Custom) : Program Custom Host TypedTerm := do
  let (first, second, type) ← operandsProgram left right
  let third ← generated factor .f32
  return ⟨type, .mix first.term second.term third.term,
    first.isConst && second.isConst && third.isConst⟩

/-- The argument `custom` gives the programs of the nodes of users. -/
def program (custom : Custom → NodeId → ValueType → Program Custom Host TypedTerm)
    (output : ValueType) : Node Custom → Program Custom Host TypedTerm
  | .expression _ snippet type => .done ⟨type, .verbatim snippet, false⟩
  | .float id value isConst => floatProgram id value isConst
  | .normal _ space => do return ⟨.vec3, (← config).normal space, false⟩
  | .context _ _ overrides child => .within overrides (generated child output) .done
  | .reader _ key fallback => readerProgram key fallback output
  | .sample _ texture => sampleProgram texture
  | .binary _ operation left right => binaryProgram operation left right
  | .mix _ left right factor => mixProgram left right factor
  | .custom id _ _ content => custom content id output

end Node

/-- The fuel bounds how deep the generation of a node may lie in that of others. -/
def generate (custom : Custom → NodeId → ValueType → Program Custom Host TypedTerm) :
    (fuel : Nat) → Node Custom → ValueType → Action Custom Host TypedTerm
  | 0, _, _ => .exhausted
  | fuel + 1, node, output =>
    ((node.program custom output).run (generate custom fuel)).bind (.finish node.name output)

end ShadeTree
