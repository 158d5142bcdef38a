import ShadeTree.Config.Basic
import ShadeTree.Description.Basic
import ShadeTree.Node

/-!
Building nodes from their descriptions.

Ids are counted upwards. A node takes its id after its children have theirs, and an id that was
taken stays taken even if the construction fails afterwards.
-/

namespace ShadeTree

open Number

/-- The operations that a description can name. -/
inductive Operation where
  | add
  | multiply
  | mix
  deriving DecidableEq

namespace Operation

def arity : Operation → Nat
  | add | multiply => 2
  | mix => 3

def title : Operation → String
  | add => "Add"
  | multiply => "Multiply"
  | mix => "Mix"

def ofName? : String → Option Operation
  | "add" => some add
  | "multiply" | "mul" => some multiply
  | "mix" | "lerp" => some mix
  | _ => none

end Operation

namespace NormalSpace

def name : NormalSpace → String
  | object => "local"
  | view => "view"
  | world => "world"

def ofName? : String → Option NormalSpace
  | "local" | "object" => some object
  | "view" => some view
  | "world" => some world
  | _ => none

end NormalSpace

/-- Under radiance a surface reads its own roughness, under irradiance full roughness and the
direction of its normal. -/
inductive PhysicalScope where
  | radiance
  | irradiance
  deriving DecidableEq

namespace PhysicalScope

def name : PhysicalScope → String
  | radiance => "radiance"
  | irradiance => "irradiance"

def title : PhysicalScope → String
  | radiance => "Radiance"
  | irradiance => "Irradiance"

def ofName? : String → Option PhysicalScope
  | "radiance" => some radiance
  | "irradiance" => some irradiance
  | _ => none

end PhysicalScope

/-- Why a description has no tree. -/
inductive ConstructionError where
  | unknownScope (name : String)
  | unknownSpace (name : String)
  | unknownOperation (name : String)
  | emptySnippet
  | wrongArity (operation : Operation) (count : Nat)
  | inValue (key : String) (cause : ConstructionError)
  deriving DecidableEq

/-- The messages of an error, from the outermost to its cause. -/
def ConstructionError.messages : ConstructionError → List String
  | unknownScope name =>
    ["unknown physical context scope: " ++ Text.quote name ++
      " (expected \"radiance\" or \"irradiance\")"]
  | unknownSpace name =>
    ["unsupported normal space: " ++ name ++ " (expected local, view or world)"]
  | unknownOperation name => ["unsupported math op: " ++ name]
  | emptySnippet => ["Expression.snippet must not be empty"]
  | wrongArity operation count =>
    ["Math " ++ operation.title ++ " takes " ++ toString operation.arity ++ " inputs, got " ++
      toString count]
  | inValue key cause => ("context value " ++ key) :: cause.messages

/-- The state is the next id. -/
abbrev Construction := ExceptT ConstructionError (StateM NodeId)

namespace Construction

/-- The next id of the counter. After `2 ^ 64` ids a counter of 64 bits would hand them out again; it is
taken as never getting there. -/
def fresh : Construction NodeId :=
  modifyGet fun next => (next, next + 1)

end Construction

def Operation.parse (spelling : String) : Except ConstructionError Operation :=
  match Operation.ofName? (Text.fold spelling) with
  | some operation => .ok operation
  | none => .error (.unknownOperation (Text.fold spelling))

def NormalSpace.parse (spelling : String) : Except ConstructionError NormalSpace :=
  match NormalSpace.ofName? (Text.fold spelling) with
  | some space => .ok space
  | none => .error (.unknownSpace (Text.fold spelling))

/-- The names of the scopes are matched exactly. -/
def PhysicalScope.parse (name : String) : Except ConstructionError PhysicalScope :=
  match PhysicalScope.ofName? name with
  | some scope => .ok scope
  | none => .error (.unknownScope name)

/-- The key under which samples find the roughness. -/
def roughnessKey : String := "roughness"

def uvKey : String := "uv"

variable {Custom : Type}

open Construction

/-- What a scope installs; every context has nodes of its own. -/
def PhysicalScope.overrides : PhysicalScope → Construction (Frame Custom)
  | .radiance =>
    return [(roughnessKey, .node (.expression (← fresh) roughnessFactor .f32))]
  | .irradiance => do
    let roughness := Node.float (← fresh) (Single.ofWord 0x3f800000) true
    let uv := Node.normal (← fresh) .world
    return [(roughnessKey, .node roughness), (uvKey, .node uv)]

/-- Every physical context declares a colour. -/
def PhysicalScope.wrap (scope : PhysicalScope) (child : Node Custom) :
    Construction (Node Custom) := do
  let overrides ← scope.overrides
  return .context (← fresh) (some .vec3) overrides child

/-- The node takes its id only if the number of operands is right. -/
def Operation.apply (operation : Operation) (inputs : List (Node Custom)) :
    Construction (Node Custom) :=
  match operation, inputs with
  | .add, [left, right] => return .binary (← fresh) .add left right
  | .multiply, [left, right] => return .binary (← fresh) .multiply left right
  | .mix, [left, right, factor] => return .mix (← fresh) left right factor
  | _, _ => throw (.wrongArity operation inputs.length)

namespace NodeDescription

mutual

/-- A scope, a space or an operation is understood before any child is built. -/
def build : NodeDescription → Construction (Node Custom)
  | .physicalContext scope child => do
    let scope ← PhysicalScope.parse scope
    scope.wrap (← child.build)
  | .context values child type => do
    let overrides ← buildValues values
    let child ← child.build
    return .context (← fresh) type overrides child
  | .expression snippet type =>
    if Text.isBlankText snippet then throw .emptySnippet
    else return .expression (← fresh) snippet type
  | .float value isConst => return .float (← fresh) value isConst
  | .normal space => do
    let space ← NormalSpace.parse space
    return .normal (← fresh) space
  | .contextValue key fallback => do
    let fallback ← fallback.build
    return .reader (← fresh) key fallback
  | .environmentSample texture => return .sample (← fresh) texture
  | .math operation inputs => do
    let operation ← Operation.parse operation
    operation.apply (← buildInputs inputs)

def buildValues : List (String × NodeDescription) → Construction (List (String × Value Custom))
  | [] => return []
  | (key, value) :: rest => do
    let node ← ExceptT.adapt (ConstructionError.inValue key) value.build
    return (key, .node node) :: (← buildValues rest)

def buildInputs : List NodeDescription → Construction (List (Node Custom))
  | [] => return []
  | input :: rest => do
    let node ← input.build
    return node :: (← buildInputs rest)

end

end NodeDescription

end ShadeTree
