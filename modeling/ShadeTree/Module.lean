import ShadeTree.Builder

/-!
The text of a shader module: the struct of the surface inputs, the texture bindings, and the entry
function with its locals and the expression that it returns.
-/

namespace ShadeTree

/-- What a build gives: an expression and the declarations that it needs. -/
structure Fragment where
  expression : TypedTerm
  locals : List LocalVariable
  textures : List TextureBinding
  /-- The text of the module around the expression. -/
  source : String
  deriving DecidableEq

namespace Module

def line (text : String) : String :=
  text ++ "\n"

def fieldLine (name : String) (type : ValueType) : String :=
  line ("    " ++ name ++ ": " ++ type.wgsl ++ ",")

def inputLines (config : Config) : List String :=
  [line ("struct " ++ config.inputStruct ++ " \x7b"), fieldLine config.uvField .vec2,
    fieldLine config.normalField .vec3, fieldLine config.viewNormalField .vec3, line "\x7d;",
    line ""]

def bindingLine (binding : Nat) (name type : String) : String :=
  line ("@group(0) @binding(" ++ toString binding ++ ") var " ++ name ++ ": " ++ type ++ ";")

/-- A texture takes an even binding and its sampler the odd one behind it. -/
def textureLines (index : Nat) (texture : TextureBinding) : List String :=
  [bindingLine (2 * index) (Identifier.textureVariable texture.name) texture.dimension.wgsl,
    bindingLine (2 * index + 1) (Identifier.samplerVariable texture.name) "sampler"]

def bindingLines (textures : List TextureBinding) : List String :=
  if textures.isEmpty then []
  else (textures.mapIdx textureLines).flatten ++ [line ""]

def parameters (config : Config) : List String :=
  (config.inputName ++ ": " ++ config.inputStruct) ::
    config.params.map fun param => param.name ++ ": " ++ param.type.wgsl

def localLine (declared : LocalVariable) : String :=
  line ("    var " ++ declared.name ++ ": " ++ declared.type.wgsl ++ " = " ++
    declared.initializer ++ ";")

def functionLines (config : Config) (locals : List LocalVariable) (expression : TypedTerm) :
    List String :=
  line ("fn " ++ config.functionName ++ "(" ++ ", ".intercalate (parameters config) ++ ") -> " ++
      expression.type.wgsl ++ " \x7b") ::
    (locals.map localLine ++ [line ("    return " ++ expression.text ++ ";"), line "\x7d"])

/-- The struct, the bindings and the function follow each other without a separator. -/
def source (config : Config) (locals : List LocalVariable) (textures : List TextureBinding)
    (expression : TypedTerm) : String :=
  String.join
    (inputLines config ++ bindingLines textures ++ functionLines config locals expression)

end Module

/-- The module of an expression declares what the builder has declared. -/
def Builder.assemble {Custom : Type} (builder : Builder Custom) (expression : TypedTerm) :
    Fragment where
  expression := expression
  locals := builder.locals
  textures := builder.textures
  source := Module.source builder.config builder.locals builder.textures expression

end ShadeTree
