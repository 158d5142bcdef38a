import ShadeTree.Proofs.Config.Accepted
import ShadeTree.Proofs.Generation.Conversion
import ShadeTree.Proofs.Reading.Composite

/-!
What single expressions mean.

A conversion, an operation or a sample is written so that its text has the value that the reference
gives to it, if the texts of its operands have theirs.
-/

namespace ShadeTree

open Number Reading

variable {V : Type} {alphabet : Alphabet} {environment : Environment V}

namespace Pad

def value (environment : Environment V) : Pad → V
  | zero => environment.zero
  | one => environment.one

/-- A pad is read as its value. -/
theorem eval_expression (pad : Pad) :
    environment.eval pad.expression = pad.value environment := by
  cases pad with
  | zero =>
      have read : Single.ofText? "0.0" = some (Binary.zero false) := by decide +kernel
      change environment.leaf "0.0" = environment.number (Binary.zero false)
      rw [Environment.leaf, read]
  | one =>
      have read : Single.ofText? "1.0" = some (Single.ofWord 0x3f800000) := by decide +kernel
      change environment.leaf "1.0" = environment.number (Single.ofWord 0x3f800000)
      rw [Environment.leaf, read]

/-- Pads are read as their values. -/
theorem evalAll_expression (pads : List Pad) :
    environment.evalAll (pads.map expression) = pads.map (value environment) := by
  induction pads with
  | nil => rfl
  | cons pad rest ih => rw [List.map_cons, Environment.evalAll, eval_expression, ih, List.map_cons]

end Pad

/-- A spread converts a value by repeating it and adding the pads. -/
theorem Spread.convert {source target : ValueType} {copies : Nat} {pads : List Pad}
    (spread : Spread source target copies pads) (value : V) :
    environment.convert? source target value =
      some (environment.vector target
        (List.replicate copies value ++ pads.map (Pad.value environment))) := by
  cases spread with
  | scalarPair | scalarTriple | scalarQuadruple | pairTriple | pairQuadruple | tripleQuadruple => rfl

/-- A narrowing converts a value by taking its first lanes. -/
theorem Narrowing.convert {source target : ValueType} {count : Nat}
    (narrowing : Narrowing source target count) (value : V) :
    environment.convert? source target value =
      some (environment.member value (Term.laneNames count)) := by
  cases narrowing with
  | pairScalar | tripleScalar | quadrupleScalar | triplePair | quadruplePair | quadrupleTriple => rfl

namespace TypedTerm

variable {expression result left right first second : TypedTerm} {target type : ValueType}

/-- The expression has the given type, and its text the given value. -/
def Means (alphabet : Alphabet) (environment : Environment V) (expression : TypedTerm)
    (meaning : Meaning V) : Prop :=
  ∃ reading, expression.term.ReadsAs alphabet reading ∧
    meaning = ⟨expression.type, environment.eval reading⟩

/-- A term means something of its own type. -/
theorem Means.type_eq {meaning : Meaning V} (means : expression.Means alphabet environment meaning) :
    meaning.type = expression.type := by
  obtain ⟨_, _, rfl⟩ := means
  rfl

/-- A converted term means the converted value. -/
theorem Means.converted {meaning : Meaning V} (means : expression.Means alphabet environment meaning)
    (converts : Converts expression target result) :
    ∃ value, environment.convert? meaning.type target meaning.value = some value ∧
      result.Means alphabet environment ⟨target, value⟩ := by
  obtain ⟨reading, reads, rfl⟩ := means
  cases converts with
  | same => exact ⟨_, by simp [Environment.convert?], reading, reads, rfl⟩
  | @spread _ copies pads spread =>
      have value : environment.eval (.call target.wgsl
          (List.replicate copies reading ++ pads.map Pad.expression)) =
          environment.vector target (List.replicate copies (environment.eval reading) ++
            pads.map (Pad.value environment)) := by
        rw [Environment.eval, Environment.evalAll_append, Environment.evalAll_replicate,
          Pad.evalAll_expression]
        rfl
      exact ⟨_, spread.convert _, _, ⟨.vector spread.pos reads.parses, rfl⟩, congrArg _ value.symm⟩
  | narrowed narrowing =>
      refine ⟨_, narrowing.convert _, _,
        ⟨.lanes rfl narrowing.pos (.group reads.parses), rfl⟩, ?_⟩
      rw [Environment.eval, Environment.eval]
      rfl

theorem isVector_ne_scalar (vector : type.isVector) : type ≠ .f32 := by
  rintro rfl
  cases vector

/-- A scalar is converted to a vector by repeating it. -/
theorem convert_scalar (vector : type.isVector) (value : V) :
    environment.convert? .f32 type value = environment.splat? value type := by
  simp [Environment.convert?, (isVector_ne_scalar vector).symm]

/-- Operands get their common type as in the reference. -/
theorem Means.unified {leftMeaning rightMeaning : Meaning V}
    (leftMeans : left.Means alphabet environment leftMeaning)
    (rightMeans : right.Means alphabet environment rightMeaning)
    (done : left.unify right = .ok (first, second, type)) :
    ∃ leftValue rightValue,
      environment.promote? leftMeaning rightMeaning = some (leftValue, rightValue, type) ∧
        first.Means alphabet environment ⟨type, leftValue⟩ ∧
          second.Means alphabet environment ⟨type, rightValue⟩ := by
  have leftType := leftMeans.type_eq
  have rightType := rightMeans.type_eq
  obtain ⟨same, rfl, rfl, rfl⟩ | ⟨scalar, vector, rfl, converts, rfl⟩ |
    ⟨scalar, vector, rfl, rfl, converts⟩ := unify_converts done
  · refine ⟨leftMeaning.value, rightMeaning.value, ?_, leftType ▸ leftMeans, ?_⟩
    · rw [Environment.promote?, leftType, rightType, if_pos same]
    · rw [same, ← rightType]
      exact rightMeans
  · obtain ⟨value, converted, means⟩ := leftMeans.converted converts
    refine ⟨value, rightMeaning.value, ?_, means, rightType ▸ rightMeans⟩
    rw [leftType, scalar, convert_scalar vector] at converted
    rw [Environment.promote?, leftType, rightType, scalar, if_neg (isVector_ne_scalar vector).symm,
      if_pos ⟨rfl, vector⟩, converted]
    rfl
  · obtain ⟨value, converted, means⟩ := rightMeans.converted converts
    refine ⟨leftMeaning.value, value, ?_, leftType ▸ leftMeans, means⟩
    rw [rightType, scalar, convert_scalar vector] at converted
    rw [Environment.promote?, leftType, rightType, scalar, if_neg (isVector_ne_scalar vector),
      if_neg (fun other => isVector_ne_scalar vector other.1), if_pos ⟨rfl, vector⟩, converted]
    rfl

/-- A level of detail is the product of its roughness and the number of levels. -/
theorem means_sample {texture : String} {coordinate roughness : TypedTerm}
    {maxMip : Single} {coordinateMeaning roughnessMeaning : Meaning V}
    (coordinateMeans : coordinate.Means alphabet environment coordinateMeaning)
    (roughnessMeans : roughness.Means alphabet environment roughnessMeaning)
    (finite : maxMip.isFinite)
    (textureValue : environment.leaf (Identifier.textureVariable texture) =
      environment.texture texture)
    (samplerValue : environment.leaf (Identifier.samplerVariable texture) =
      environment.sampler texture) :
    (⟨.vec4, .sample (Identifier.textureVariable texture) (Identifier.samplerVariable texture)
        coordinate.term (.product roughness.term (.number maxMip)), false⟩ : TypedTerm).Means
      alphabet environment ⟨.vec4, environment.sample texture coordinateMeaning.value
        (environment.binary .times roughnessMeaning.value (environment.number maxMip))⟩ := by
  obtain ⟨place, placeReads, rfl⟩ := coordinateMeans
  obtain ⟨rough, roughReads, rfl⟩ := roughnessMeans
  have level := Term.ReadsAs.operation .multiply roughReads (.number maxMip)
  refine ⟨_, ⟨.sample (Identifier.isWord_textureVariable _) (Identifier.isWord_samplerVariable _)
    placeReads.parses level.parses, rfl⟩, ?_⟩
  simp only [Environment.eval, Environment.evalAll, Environment.eval_literal finite, textureValue,
    samplerValue]
  rfl

/-- An operation on unified operands is the operation on their values. -/
theorem means_operation (operation : BinaryOperation) {isConst : Bool} {left right : V}
    (firstMeans : first.Means alphabet environment ⟨type, left⟩)
    (secondMeans : second.Means alphabet environment ⟨type, right⟩) :
    (⟨type, operation.term first.term second.term, isConst⟩ : TypedTerm).Means alphabet environment
      ⟨type, environment.binary operation.operator left right⟩ := by
  obtain ⟨firstReading, firstReads, firstEqual⟩ := firstMeans
  obtain ⟨secondReading, secondReads, secondEqual⟩ := secondMeans
  obtain ⟨_, rfl⟩ := Meaning.mk.inj firstEqual
  obtain ⟨_, rfl⟩ := Meaning.mk.inj secondEqual
  refine ⟨_, .operation operation firstReads secondReads, ?_⟩
  rw [Environment.eval, Environment.eval]

/-- A mix means the call of its three operands. -/
theorem means_mix {third : TypedTerm} {isConst : Bool} {left right : V} {factor : Meaning V}
    (firstMeans : first.Means alphabet environment ⟨type, left⟩)
    (secondMeans : second.Means alphabet environment ⟨type, right⟩)
    (thirdMeans : third.Means alphabet environment factor) :
    (⟨type, .mix first.term second.term third.term, isConst⟩ : TypedTerm).Means alphabet environment
      ⟨type, environment.call "mix" [left, right, factor.value]⟩ := by
  obtain ⟨firstReading, firstReads, firstEqual⟩ := firstMeans
  obtain ⟨secondReading, secondReads, secondEqual⟩ := secondMeans
  obtain ⟨thirdReading, thirdReads, rfl⟩ := thirdMeans
  obtain ⟨_, rfl⟩ := Meaning.mk.inj firstEqual
  obtain ⟨_, rfl⟩ := Meaning.mk.inj secondEqual
  refine ⟨_, ⟨.mix firstReads.parses secondReads.parses thirdReads.parses, rfl⟩, ?_⟩
  simp only [Environment.eval, Environment.evalAll]

end TypedTerm

namespace Config

variable {config : Config}

/-- A member of the input is read as one atom that means the field. -/
theorem means_field (alphabet : Alphabet) (environment : Environment V)
    (worded : IsWord config.inputName) {member : String} (word : IsWord member) :
    (Term.field config.inputName member).ReadsAs alphabet
        (.atom (config.inputName ++ "." ++ member)) ∧
      environment.eval (.atom (config.inputName ++ "." ++ member)) =
        environment.field config member :=
  ⟨⟨.field worded word, rfl⟩, by rw [Environment.eval]; rfl⟩

/-- The normal of a space is written as it is defined. -/
theorem means_normal (worded : config.Worded) (space : NormalSpace) (isConst : Bool) :
    (⟨.vec3, config.normal space, isConst⟩ : TypedTerm).Means alphabet environment
      ⟨.vec3, environment.normal config space⟩ := by
  obtain ⟨direction, directionValue⟩ :=
    means_field alphabet environment worded.inputName worded.viewNormalField
  cases space with
  | object =>
      obtain ⟨reads, value⟩ := means_field alphabet environment worded.inputName worded.normalField
      exact ⟨_, reads, by rw [value]; rfl⟩
  | view =>
      refine ⟨_, ⟨.normalize direction.parses, rfl⟩, ?_⟩
      rw [Environment.eval, Environment.evalAll, directionValue, Environment.evalAll]
      rfl
  | world =>
      have turned : (Term.product
          (.vector .vec4 1 (.field config.inputName config.viewNormalField) [.zero])
          (.name config.viewMatrix)).ReadsAs alphabet _ :=
        .operation .multiply ⟨.vector Nat.one_pos direction.parses, rfl⟩
          ⟨.name worded.viewMatrix, rfl⟩
      refine ⟨_, ⟨.normalize (.lanes rfl (by decide) turned.parses), rfl⟩, ?_⟩
      have lanes : environment.evalAll
          (List.replicate 1 (.atom (config.inputName ++ "." ++ config.viewNormalField)) ++
            [Pad.zero].map Pad.expression) =
          [environment.field config config.viewNormalField, environment.zero] := by
        rw [Environment.evalAll_append, Environment.evalAll_replicate, Pad.evalAll_expression,
          directionValue]
        rfl
      simp only [Environment.eval, Environment.evalAll, lanes]
      rfl

end Config

end ShadeTree
