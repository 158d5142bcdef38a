import ShadeTree.Text.Blank

/-!
The value types of shader expressions and the texture dimensions that their coordinates address.
-/

namespace ShadeTree

/-- Scalars, vectors and matrices of single precision. -/
inductive ValueType where
  | f32
  | vec2
  | vec3
  | vec4
  | mat4
  deriving DecidableEq

namespace ValueType

def wgsl : ValueType → String
  | f32 => "f32"
  | vec2 => "vec2f"
  | vec3 => "vec3f"
  | vec4 => "vec4f"
  | mat4 => "mat4x4f"

/-- The short name in some messages. -/
def title : ValueType → String
  | f32 => "F32"
  | vec2 => "Vec2"
  | vec3 => "Vec3"
  | vec4 => "Vec4"
  | mat4 => "Mat4"

/-- Matrices have no lanes. -/
def lanes? : ValueType → Option Nat
  | f32 => some 1
  | vec2 => some 2
  | vec3 => some 3
  | vec4 => some 4
  | mat4 => none

def isVector : ValueType → Bool
  | vec2 | vec3 | vec4 => true
  | f32 | mat4 => false

def ofName? : String → Option ValueType
  | "f32" | "float" => some f32
  | "vec2f" | "vec2" | "vector2" => some vec2
  | "vec3f" | "vec3" | "vector3" => some vec3
  | "vec4f" | "vec4" | "vector4" | "color" => some vec4
  | "mat4x4f" | "mat4" => some mat4
  | _ => none

/-- Case and surrounding white space do not matter in a spelling. -/
def ofSpelling? (spelling : String) : Option ValueType :=
  ofName? (Text.fold spelling)

/-- A scalar meets a vector as that vector; other pairs keep the type on the left. -/
def promoted (left right : ValueType) : ValueType :=
  if left = f32 ∧ right.isVector then right else left

end ValueType

/-- A plane is addressed by two coordinates and a cube by a direction. -/
inductive Dimension where
  | plane
  | cube
  deriving DecidableEq

namespace Dimension

def wgsl : Dimension → String
  | plane => "texture_2d<f32>"
  | cube => "texture_cube<f32>"

def ofCoordinate? : ValueType → Option Dimension
  | .vec2 => some plane
  | .vec3 => some cube
  | .f32 | .vec4 | .mat4 => none

end Dimension

end ShadeTree
