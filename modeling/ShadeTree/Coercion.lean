import ShadeTree.Term

/-!
Conversion of expressions between value types.

A scalar becomes a vector by repetition, with one in the fourth lane. A vector becomes a shorter
one by dropping lanes, and a longer one by zeros with one in the fourth lane. A matrix stays one.
-/

namespace ShadeTree

/-- Why an expression cannot take a type. -/
inductive CoercionError where
  | notScalar (found : ValueType)
  | notRepeatable (target : ValueType)
  | notConvertible (source target : ValueType)
  | incompatible (left right : ValueType)
  deriving DecidableEq

def CoercionError.message : CoercionError → String
  | notScalar found => "expected f32 for splat, got " ++ found.title
  | notRepeatable target => "cannot splat f32 to " ++ target.wgsl
  | notConvertible source target => "cannot coerce " ++ source.wgsl ++ " to " ++ target.wgsl
  | incompatible left right =>
    "incompatible types for binary op: " ++ left.title ++ " and " ++ right.title

namespace TypedTerm

def repeated (expression : TypedTerm) (target : ValueType) (copies : Nat) (pads : List Pad) :
    TypedTerm :=
  ⟨target, .vector target copies expression.term pads, expression.isConst⟩

/-- A scalar is repeated in the lanes of the target. -/
def splat (expression : TypedTerm) (target : ValueType) : Except CoercionError TypedTerm :=
  if expression.type = .f32 then
    match target with
    | .f32 => .ok expression
    | .vec2 => .ok (expression.repeated .vec2 1 [])
    | .vec3 => .ok (expression.repeated .vec3 1 [])
    | .vec4 => .ok (expression.repeated .vec4 3 [.one])
    | .mat4 => .error (.notRepeatable .mat4)
  else .error (.notScalar expression.type)

def narrowed (expression : TypedTerm) (target : ValueType) (count : Nat) : TypedTerm :=
  ⟨target, .lanes (.group expression.term) count, expression.isConst⟩

/-- Only pairs of a scalar or vector with another one are convertible. -/
def coerce (expression : TypedTerm) (target : ValueType) : Except CoercionError TypedTerm :=
  if expression.type = target then .ok expression
  else
    match expression.type, target with
    | .f32, .vec2 | .f32, .vec3 | .f32, .vec4 => expression.splat target
    | .vec2, .vec3 => .ok (expression.repeated .vec3 1 [.zero])
    | .vec2, .vec4 => .ok (expression.repeated .vec4 1 [.zero, .one])
    | .vec3, .vec4 => .ok (expression.repeated .vec4 1 [.one])
    | .vec2, .f32 | .vec3, .f32 | .vec4, .f32 => .ok (expression.narrowed .f32 1)
    | .vec3, .vec2 | .vec4, .vec2 => .ok (expression.narrowed .vec2 2)
    | .vec4, .vec3 => .ok (expression.narrowed .vec3 3)
    | source, target => .error (.notConvertible source target)

/-- The operands of an operation get one type, a scalar that of the vector it meets. -/
def unify (left right : TypedTerm) : Except CoercionError (TypedTerm × TypedTerm × ValueType) :=
  if left.type = right.type then .ok (left, right, left.type)
  else if left.type = .f32 ∧ right.type.isVector then
    (left.splat right.type).map (·, right, right.type)
  else if right.type = .f32 ∧ left.type.isVector then
    (right.splat left.type).map (left, ·, left.type)
  else .error (.incompatible left.type right.type)

end TypedTerm

end ShadeTree
