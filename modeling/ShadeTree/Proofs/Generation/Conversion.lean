import ShadeTree.Coercion
import ShadeTree.Proofs.Generation.Derivation

/-!
The cases of a conversion.

An expression of the wanted type stays as it is, a shorter one is spread over the lanes of a vector,
and a longer one loses its last lanes.
-/

namespace ShadeTree

/-- How an expression fills a longer vector: as so many copies with constant lanes behind them. -/
inductive Spread : ValueType → ValueType → Nat → List Pad → Prop
  | scalarPair : Spread .f32 .vec2 1 []
  | scalarTriple : Spread .f32 .vec3 1 []
  | scalarQuadruple : Spread .f32 .vec4 3 [.one]
  | pairTriple : Spread .vec2 .vec3 1 [.zero]
  | pairQuadruple : Spread .vec2 .vec4 1 [.zero, .one]
  | tripleQuadruple : Spread .vec3 .vec4 1 [.one]

/-- How many lanes of a longer vector are kept. -/
inductive Narrowing : ValueType → ValueType → Nat → Prop
  | pairScalar : Narrowing .vec2 .f32 1
  | tripleScalar : Narrowing .vec3 .f32 1
  | quadrupleScalar : Narrowing .vec4 .f32 1
  | triplePair : Narrowing .vec3 .vec2 2
  | quadruplePair : Narrowing .vec4 .vec2 2
  | quadrupleTriple : Narrowing .vec4 .vec3 3

/-- There is one copy at least. -/
theorem Spread.pos {source target : ValueType} {copies : Nat} {pads : List Pad}
    (spread : Spread source target copies pads) : 0 < copies := by
  cases spread with
  | scalarPair | scalarTriple | scalarQuadruple | pairTriple | pairQuadruple | tripleQuadruple =>
      decide

/-- There is one lane at least. -/
theorem Narrowing.pos {source target : ValueType} {count : Nat}
    (narrowing : Narrowing source target count) : 0 < count := by
  cases narrowing with
  | pairScalar | tripleScalar | quadrupleScalar | triplePair | quadruplePair | quadrupleTriple =>
      decide

/-- An expression and what it becomes in another type. -/
inductive Converts (expression : TypedTerm) : ValueType → TypedTerm → Prop
  | same : Converts expression expression.type expression
  | spread {target : ValueType} {copies : Nat} {pads : List Pad}
      (spread : Spread expression.type target copies pads) :
      Converts expression target (expression.repeated target copies pads)
  | narrowed {target : ValueType} {count : Nat} (narrowing : Narrowing expression.type target count) :
      Converts expression target (expression.narrowed target count)

namespace TypedTerm

variable {expression result left right first second : TypedTerm} {target type : ValueType}

/-- A splat is a conversion of a scalar. -/
theorem splat_converts (done : expression.splat target = .ok result) :
    expression.type = .f32 ∧ Converts expression target result := by
  unfold splat at done
  by_cases scalar : expression.type = .f32
  · rw [if_pos scalar] at done
    refine ⟨scalar, ?_⟩
    cases target with
    | f32 =>
        cases done
        exact scalar ▸ .same
    | vec2 =>
        cases done
        exact .spread (scalar ▸ .scalarPair)
    | vec3 =>
        cases done
        exact .spread (scalar ▸ .scalarTriple)
    | vec4 =>
        cases done
        exact .spread (scalar ▸ .scalarQuadruple)
    | mat4 => cases done
  · rw [if_neg scalar] at done
    cases done

/-- A coercion that succeeds is a conversion. -/
theorem coerce_converts (done : expression.coerce target = .ok result) :
    Converts expression target result := by
  unfold coerce at done
  by_cases same : expression.type = target
  · rw [if_pos same] at done
    cases done
    exact same ▸ .same
  · rw [if_neg same] at done
    split at done
    · exact (splat_converts done).2
    · exact (splat_converts done).2
    · exact (splat_converts done).2
    all_goals
      rename_i source
      cases done
    · exact .spread (source ▸ .pairTriple)
    · exact .spread (source ▸ .pairQuadruple)
    · exact .spread (source ▸ .tripleQuadruple)
    · exact .narrowed (source ▸ .pairScalar)
    · exact .narrowed (source ▸ .tripleScalar)
    · exact .narrowed (source ▸ .quadrupleScalar)
    · exact .narrowed (source ▸ .triplePair)
    · exact .narrowed (source ▸ .quadruplePair)
    · exact .narrowed (source ▸ .quadrupleTriple)

/-- Operands of one type stay as they are; otherwise one is a scalar and takes the type of the
vector. -/
theorem unify_converts (done : left.unify right = .ok (first, second, type)) :
    (left.type = right.type ∧ type = left.type ∧ first = left ∧ second = right) ∨
      (left.type = .f32 ∧ right.type.isVector ∧ type = right.type ∧
        Converts left right.type first ∧ second = right) ∨
      (right.type = .f32 ∧ left.type.isVector ∧ type = left.type ∧ first = left ∧
        Converts right left.type second) := by
  unfold unify at done
  by_cases same : left.type = right.type
  · rw [if_pos same] at done
    cases done
    exact .inl ⟨same, rfl, rfl, rfl⟩
  · rw [if_neg same] at done
    by_cases scalarLeft : left.type = .f32 ∧ right.type.isVector
    · rw [if_pos scalarLeft] at done
      cases splatted : left.splat right.type with
      | error cause =>
          rw [splatted] at done
          cases done
      | ok value =>
          rw [splatted] at done
          cases done
          exact .inr (.inl ⟨scalarLeft.1, scalarLeft.2, rfl, (splat_converts splatted).2, rfl⟩)
    · rw [if_neg scalarLeft] at done
      by_cases scalarRight : right.type = .f32 ∧ left.type.isVector
      · rw [if_pos scalarRight] at done
        cases splatted : right.splat left.type with
        | error cause =>
            rw [splatted] at done
            cases done
        | ok value =>
            rw [splatted] at done
            cases done
            exact .inr (.inr ⟨scalarRight.1, scalarRight.2, rfl, rfl, (splat_converts splatted).2⟩)
      · rw [if_neg scalarRight] at done
        cases done

end TypedTerm

theorem Converts.type {expression result : TypedTerm} {target : ValueType}
    (converts : Converts expression target result) : result.type = target := by
  cases converts with
  | same | spread | narrowed => rfl

/-- The type of the coordinate that is sampled at. -/
def Frames.coordinateType {Custom : Type} (frames : Frames Custom) : ValueType :=
  match frames.find? uvKey with
  | some value => value.type
  | none => .vec2

section

variable {supply : Supply Empty} {builder after : Builder Empty} {expression : TypedTerm}

/-- What a node gives has the type that is asked for, whatever it generates. -/
theorem Generates.type_eq {node : Node Empty} {output : ValueType}
    (generates : Generates supply builder (.node node output) expression after) :
    expression.type = output := by
  cases generates with
  | converted inside conversion => exact (TypedTerm.coerce_converts conversion).type

theorem Generates.value_type_eq {value : Value Empty} {output : ValueType}
    (generates : Generates supply builder (.value value output) expression after) :
    expression.type = output := by
  cases generates with
  | tree inside => exact inside.type_eq
  | literal supplied conversion => exact (TypedTerm.coerce_converts conversion).type

theorem Generates.roughness_type_eq
    (generates : Generates supply builder .roughness expression after) : expression.type = .f32 := by
  cases generates with
  | rough found inside => exact inside.value_type_eq
  | smooth missing => rfl

theorem Generates.coordinate_type
    (generates : Generates supply builder .coordinate expression after) :
    expression.type = builder.frames.coordinateType := by
  unfold Frames.coordinateType
  cases generates with
  | redirected found inside =>
      rw [Builder.find?] at found
      rw [found, inside.value_type_eq]
  | input missing =>
      rw [Builder.find?] at missing
      rw [missing]
      rfl

end

end ShadeTree
