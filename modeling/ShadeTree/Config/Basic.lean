import ShadeTree.Identifier
import ShadeTree.ValueType
import ShadeTree.Number.Style
import ShadeTree.Text.Quoted

/-!
The names that a generated module uses, and the conditions under which they are accepted.
-/

namespace ShadeTree

open Number

/-- A runtime value that the entry function takes as a parameter. -/
structure Param where
  name : String
  type : ValueType
  deriving DecidableEq

/-- The names around the expression of a module, and how samples blur. -/
structure Config where
  functionName : String
  inputStruct : String
  inputName : String
  uvField : String
  normalField : String
  viewNormalField : String
  viewMatrix : String
  params : List Param
  /-- The mip level that a sample reads at roughness one. -/
  envMaxMip : Single
  deriving DecidableEq

/-- Why a configuration is not accepted. -/
inductive ConfigError where
  | badName (field name : String)
  | badParam (name : String)
  | repeatedParam (name : String)
  | viewMatrixType (name : String) (found : ValueType)
  | viewMatrixMissing (name : String)
  | roughnessType (found : ValueType)
  | roughnessMissing
  | badMaxMip (found : Single)
  deriving DecidableEq

/-- The parameter that carries the roughness of the surface. -/
def roughnessFactor : String := "roughnessFactor"

def ConfigError.message : ConfigError → String
  | badName field name => field ++ " is not a valid WGSL identifier: " ++ Text.quote name
  | badParam name => "runtime param is not a valid WGSL identifier: " ++ Text.quote name
  | repeatedParam name => "duplicate runtime param: " ++ name
  | viewMatrixType name found => name ++ " must be mat4x4f, got " ++ found.wgsl
  | viewMatrixMissing name => "params must declare the view matrix " ++ name
  | roughnessType found => roughnessFactor ++ " must be f32, got " ++ found.wgsl
  | roughnessMissing => "params must declare " ++ roughnessFactor ++ ": f32"
  | badMaxMip found => "envMaxMip must be a non-negative number, got " ++ found.text .plain

namespace Config

def default : Config where
  functionName := "node_main"
  inputStruct := "NodeInputs"
  inputName := "in"
  uvField := "uv"
  normalField := "normal"
  viewNormalField := "view_normal"
  viewMatrix := "view_matrix"
  params := [⟨"view_matrix", .mat4⟩, ⟨roughnessFactor, .f32⟩]
  envMaxMip := Single.ofWord 0x41000000

def namedFields (config : Config) : List (String × String) :=
  [("functionName", config.functionName), ("inputStruct", config.inputStruct),
    ("inputName", config.inputName), ("uvField", config.uvField),
    ("normalField", config.normalField), ("viewNormalField", config.viewNormalField),
    ("viewMatrix", config.viewMatrix)]

def validateNames : List (String × String) → Except ConfigError Unit
  | [] => .ok ()
  | (field, name) :: rest =>
    if Identifier.isSanitized name then validateNames rest else .error (.badName field name)

/-- The argument `seen` holds the names of the parameters in front. -/
def validateParams (seen : List String) : List Param → Except ConfigError Unit
  | [] => .ok ()
  | param :: rest =>
    if !Identifier.isSanitized param.name then .error (.badParam param.name)
    else if seen.contains param.name then .error (.repeatedParam param.name)
    else validateParams (param.name :: seen) rest

def paramType? (config : Config) (name : String) : Option ValueType :=
  (config.params.find? fun param => param.name == name).map Param.type

def validateViewMatrix (config : Config) : Except ConfigError Unit :=
  match config.paramType? config.viewMatrix with
  | some .mat4 => .ok ()
  | some found => .error (.viewMatrixType config.viewMatrix found)
  | none => .error (.viewMatrixMissing config.viewMatrix)

def validateRoughness (config : Config) : Except ConfigError Unit :=
  match config.paramType? roughnessFactor with
  | some .f32 => .ok ()
  | some found => .error (.roughnessType found)
  | none => .error .roughnessMissing

def isNonNegative (number : Single) : Bool :=
  number.isFinite && (!number.negative || number.isZero)

def validateMaxMip (config : Config) : Except ConfigError Unit :=
  if isNonNegative config.envMaxMip then .ok () else .error (.badMaxMip config.envMaxMip)

/-- The first name or number that is not acceptable decides. -/
def validate (config : Config) : Except ConfigError Unit := do
  validateNames config.namedFields
  validateParams [] config.params
  config.validateViewMatrix
  config.validateRoughness
  config.validateMaxMip

end Config

end ShadeTree
