import ShadeTree.Proofs.Declaration.Operations

/-!
The types of expressions as they are read.

The rules are those of the shading language for the constructs that expressions are made of. What is
generated has a type under them as long as operators take the operands that were generated for them
and no matrices are mixed.
-/

namespace ShadeTree

open Number Reading

/-- The components of a vector add up to its lanes, or a scalar alone fills them all. -/
def ValueType.IsComposedOf (target : ValueType) (components : List ValueType) : Prop :=
  target.isVector ∧ (components = [.f32] ∨
    ∃ counts : List Nat, components.map lanes? = counts.map some ∧
      target.lanes? = some counts.sum)

mutual

/-- The type of an expression. A text has the type that it was brought with. -/
inductive Expression.HasType (alphabet : Alphabet) (supply : Supply Empty) (declared : Declarations) :
    Expression → ValueType → Prop
  | brought {value : Value Empty} {text : String} {expression : Expression}
      (supplied : supply.has value) (brought : value.snippet? = some text)
      (read : alphabet.read? text = some expression) :
      Expression.HasType alphabet supply declared expression value.type
  | numeral {numeral : Numeral} (formed : numeral.WellFormed) :
      Expression.HasType alphabet supply declared (.ofNumeral numeral) .f32
  | held {entry : LocalVariable} (member : entry ∈ declared.locals) :
      Expression.HasType alphabet supply declared (.atom entry.name) entry.type
  | parameter {param : Param} (member : param ∈ declared.config.params) :
      Expression.HasType alphabet supply declared (.atom param.name) param.type
  | field {name : String} {type : ValueType} (member : (name, type) ∈ declared.config.members) :
      Expression.HasType alphabet supply declared
        (.atom (declared.config.inputName ++ "." ++ name)) type
  | group {inner : Expression} {type : ValueType}
      (typed : Expression.HasType alphabet supply declared inner type) :
      Expression.HasType alphabet supply declared (.group inner) type
  | swizzle {object : Expression} {source target : ValueType} {width count : Nat}
      (wide : source.lanes? = some width) (within : count ≤ width)
      (lanes : target.lanes? = some count)
      (typed : Expression.HasType alphabet supply declared object source) :
      Expression.HasType alphabet supply declared (.member object (Term.laneNames count)) target
  | vector {target : ValueType} {arguments : List Expression} {components : List ValueType}
      (composed : target.IsComposedOf components)
      (typed : Expression.HaveTypes alphabet supply declared arguments components) :
      Expression.HasType alphabet supply declared (.call target.wgsl arguments) target
  | sum {left right : Expression} {type : ValueType}
      (leftTyped : Expression.HasType alphabet supply declared left type)
      (rightTyped : Expression.HasType alphabet supply declared right type) :
      Expression.HasType alphabet supply declared (.binary .plus left right) type
  | product {left right : Expression} {type : ValueType}
      (leftTyped : Expression.HasType alphabet supply declared left type)
      (rightTyped : Expression.HasType alphabet supply declared right type) :
      Expression.HasType alphabet supply declared (.binary .times left right) type
  /-- A row vector times the view matrix. -/
  | turned {direction : Expression}
      (typed : Expression.HasType alphabet supply declared direction .vec4)
      (matrix : ⟨declared.config.viewMatrix, .mat4⟩ ∈ declared.config.params) :
      Expression.HasType alphabet supply declared
        (.binary .times direction (.atom declared.config.viewMatrix)) .vec4
  /-- Matrices cannot be mixed. -/
  | mix {left right factor : Expression} {type : ValueType} (mixable : type ≠ .mat4)
      (leftTyped : Expression.HasType alphabet supply declared left type)
      (rightTyped : Expression.HasType alphabet supply declared right type)
      (factorTyped : Expression.HasType alphabet supply declared factor .f32) :
      Expression.HasType alphabet supply declared (.call "mix" [left, right, factor]) type
  | normalize {value : Expression} {type : ValueType} (vector : type.isVector)
      (typed : Expression.HasType alphabet supply declared value type) :
      Expression.HasType alphabet supply declared (.call "normalize" [value]) type
  /-- The dimension of a texture is the one that its coordinate requires. -/
  | sample {binding : TextureBinding} {coordinate level : Expression} {type : ValueType}
      (member : binding ∈ declared.textures)
      (dimensioned : Dimension.ofCoordinate? type = some binding.dimension)
      (typed : Expression.HasType alphabet supply declared coordinate type)
      (levelTyped : Expression.HasType alphabet supply declared level .f32) :
      Expression.HasType alphabet supply declared
        (.call "textureSampleLevel" [.atom (Identifier.textureVariable binding.name),
          .atom (Identifier.samplerVariable binding.name), coordinate, level]) .vec4

inductive Expression.HaveTypes (alphabet : Alphabet) (supply : Supply Empty)
    (declared : Declarations) : List Expression → List ValueType → Prop
  | nil : Expression.HaveTypes alphabet supply declared [] []
  | cons {expression : Expression} {type : ValueType} {expressions : List Expression}
      {types : List ValueType} (first : Expression.HasType alphabet supply declared expression type)
      (rest : Expression.HaveTypes alphabet supply declared expressions types) :
      Expression.HaveTypes alphabet supply declared (expression :: expressions) (type :: types)

end

variable {alphabet : Alphabet} {supply : Supply Empty} {declared : Declarations}

/-- Copies of an expression in front have its type each. -/
theorem Expression.HaveTypes.replicate {expression : Expression} {type : ValueType}
    (typed : expression.HasType alphabet supply declared type) {others : List Expression}
    {types : List ValueType} (copies : Nat) (rest : HaveTypes alphabet supply declared others types) :
    HaveTypes alphabet supply declared (List.replicate copies expression ++ others)
      (List.replicate copies type ++ types) := by
  induction copies with
  | zero => exact rest
  | succ copies ih => exact .cons typed ih

/-- A pad is a number. -/
theorem Pad.hasType (pad : Pad) : pad.expression.HasType alphabet supply declared .f32 := by
  have formed (digit : Char) (isDigit : digit.isDigit) :
      (⟨false, [digit], ['0'], none⟩ : Numeral).WellFormed :=
    ⟨List.cons_ne_nil _ _, by simpa using isDigit, by simp, nofun⟩
  cases pad with
  | zero => exact .numeral (formed '0' rfl)
  | one => exact .numeral (formed '1' rfl)

theorem Pad.haveTypes (pads : List Pad) :
    Expression.HaveTypes alphabet supply declared (pads.map Pad.expression)
      (pads.map fun _ => ValueType.f32) := by
  induction pads with
  | nil => exact .nil
  | cons pad rest ih => exact .cons pad.hasType ih

/-- Copies and pads are what the target can be composed of. -/
theorem Spread.isComposedOf {source target : ValueType} {copies : Nat} {pads : List Pad}
    (spread : Spread source target copies pads) :
    target.IsComposedOf (List.replicate copies source ++ pads.map fun _ => .f32) := by
  cases spread with
  | scalarPair | scalarTriple => exact ⟨rfl, .inl rfl⟩
  | scalarQuadruple => exact ⟨rfl, .inr ⟨[1, 1, 1, 1], rfl, rfl⟩⟩
  | pairTriple => exact ⟨rfl, .inr ⟨[2, 1], rfl, rfl⟩⟩
  | pairQuadruple => exact ⟨rfl, .inr ⟨[2, 1, 1], rfl, rfl⟩⟩
  | tripleQuadruple => exact ⟨rfl, .inr ⟨[3, 1], rfl, rfl⟩⟩

/-- The lanes of an expression have the type that it is narrowed to. -/
theorem Narrowing.swizzle {source target : ValueType} {count : Nat}
    (narrowing : Narrowing source target count) {object : Expression}
    (typed : object.HasType alphabet supply declared source) :
    (Expression.member object (Term.laneNames count)).HasType alphabet supply declared target := by
  cases narrowing with
  | pairScalar | tripleScalar | quadrupleScalar | triplePair | quadruplePair | quadrupleTriple =>
      exact .swizzle rfl (by decide) rfl typed

namespace Term

/-- Operators take the operands that were generated for them, and no matrices are mixed. -/
structure IsSound (alphabet : Alphabet) (supply : Supply Empty) (declared : Declarations)
    (term : Term) : Prop where
  operands : ∀ operation left right, BinaryOperation.term operation left right ∈ term.parts →
    ∀ first second, alphabet.read? left.text = some first → alphabet.read? right.text = some second →
      operation.operator.Takes first second
  mixes : ∀ left right factor, .mix left right factor ∈ term.parts →
    ¬left.HasType supply declared .mat4

/-- A term is sound if its parts are among those of a sound one. -/
theorem IsSound.of_subset {term whole : Term} (sound : whole.IsSound alphabet supply declared)
    (subset : term.parts ⊆ whole.parts) : term.IsSound alphabet supply declared where
  operands operation left right member := sound.operands operation left right (subset member)
  mixes left right factor member := sound.mixes left right factor (subset member)

/-- However the term is read, it has the type, if it is sound. -/
def IsWellTyped (alphabet : Alphabet) (supply : Supply Empty) (declared : Declarations) (term : Term)
    (type : ValueType) : Prop :=
  term.IsSound alphabet supply declared → ∀ reading, term.Parses alphabet reading →
    reading.HasType alphabet supply declared type

namespace IsWellTyped

variable {left right factor : Term} {type : ValueType}

/-- A term in parentheses keeps its type. -/
theorem group {inner : Term} (typed : inner.IsWellTyped alphabet supply declared type) :
    (Term.group inner).IsWellTyped alphabet supply declared type := by
  intro sound reading parses
  cases parses with
  | group parses =>
      exact .group (typed (sound.of_subset fun _ member => .tail _ member) _ parses)

/-- A term that is narrowed is read with its narrower type. -/
theorem lanes {value : Term} {source : ValueType} {count : Nat}
    (narrowing : Narrowing source type count)
    (typed : value.IsWellTyped alphabet supply declared source) :
    (Term.lanes value count).IsWellTyped alphabet supply declared type := by
  intro sound reading parses
  cases parses with
  | lanes enclosed some parses =>
      exact narrowing.swizzle (typed (sound.of_subset fun _ member => .tail _ member) _ parses)

/-- A constructor is read with the type that it constructs. -/
theorem vector {value : Term} {source : ValueType} {copies : Nat} {pads : List Pad}
    (composed : type.IsComposedOf (List.replicate copies source ++ pads.map fun _ => .f32))
    (typed : value.IsWellTyped alphabet supply declared source) :
    (Term.vector type copies value pads).IsWellTyped alphabet supply declared type := by
  intro sound reading parses
  cases parses with
  | vector some parses =>
      have inside := typed (sound.of_subset fun _ member => .tail _ member) _ parses
      exact .vector composed (.replicate inside copies (Pad.haveTypes pads))

/-- A conversion is read with its target type. -/
theorem converted {expression result : TypedTerm} {target : ValueType}
    (typed : expression.term.IsWellTyped alphabet supply declared expression.type)
    (converts : Converts expression target result) :
    result.term.IsWellTyped alphabet supply declared target := by
  cases converts with
  | same => exact typed
  | spread spread => exact .vector spread.isComposedOf typed
  | narrowed narrowing => exact .lanes narrowing (.group typed)

/-- Both operands get the common type. -/
theorem unified {left right first second : TypedTerm}
    (leftTyped : left.term.IsWellTyped alphabet supply declared left.type)
    (rightTyped : right.term.IsWellTyped alphabet supply declared right.type)
    (done : left.unify right = .ok (first, second, type)) :
    first.term.IsWellTyped alphabet supply declared type ∧
      second.term.IsWellTyped alphabet supply declared type := by
  obtain ⟨same, rfl, rfl, rfl⟩ | ⟨_, _, rfl, converts, rfl⟩ | ⟨_, _, rfl, rfl, converts⟩ :=
    TypedTerm.unify_converts done
  · exact ⟨leftTyped, same ▸ rightTyped⟩
  · exact ⟨leftTyped.converted converts, rightTyped⟩
  · exact ⟨leftTyped, rightTyped.converted converts⟩

/-- Operands of one type are typed as they are read, because the operator takes them. -/
theorem operated (operation : BinaryOperation)
    (leftTyped : left.IsWellTyped alphabet supply declared type)
    (rightTyped : right.IsWellTyped alphabet supply declared type) :
    (operation.term left right).IsWellTyped alphabet supply declared type := by
  intro sound reading parses
  obtain ⟨first, second, inner, rfl, leftParses, rightParses, read⟩ := parses.operation_cases
  have takes := sound.operands operation left right (mem_parts _) first second
    leftParses.spells.read rightParses.spells.read
  rw [(leftParses.operand_parts operation rightParses read).1.mpr takes]
  have parts := parts_operation operation left right
  have leftSound : left.IsSound alphabet supply declared :=
    sound.of_subset fun _ member => parts ▸ .tail _ (List.mem_append_left _ member)
  have rightSound : right.IsSound alphabet supply declared :=
    sound.of_subset fun _ member => parts ▸ .tail _ (List.mem_append_right _ member)
  have firstTyped := leftTyped leftSound first leftParses
  have secondTyped := rightTyped rightSound second rightParses
  cases operation with
  | add => exact .group (.sum firstTyped secondTyped)
  | multiply => exact .group (.product firstTyped secondTyped)

/-- A mix of operands that are no matrices is read with their type. -/
theorem mixed (mixable : type ≠ .mat4) (leftTyped : left.IsWellTyped alphabet supply declared type)
    (rightTyped : right.IsWellTyped alphabet supply declared type)
    (factorTyped : factor.IsWellTyped alphabet supply declared .f32) :
    (mix left right factor).IsWellTyped alphabet supply declared type := by
  intro sound reading parses
  cases parses with
  | mix leftParses rightParses factorParses =>
      refine .mix mixable (leftTyped (sound.of_subset fun _ member => ?_) _ leftParses)
        (rightTyped (sound.of_subset fun _ member => ?_) _ rightParses)
        (factorTyped (sound.of_subset fun _ member => ?_) _ factorParses)
      · exact .tail _ (List.mem_append_left _ member)
      · exact .tail _ (List.mem_append_right _ (List.mem_append_left _ member))
      · exact .tail _ (List.mem_append_right _ (List.mem_append_right _ member))

/-- A sample is read as four lanes if the coordinate has the dimension of the texture. -/
theorem sampled {binding : TextureBinding} {coordinate level : Term}
    (known : binding ∈ declared.textures)
    (dimensioned : Dimension.ofCoordinate? type = some binding.dimension)
    (typed : coordinate.IsWellTyped alphabet supply declared type)
    (levelTyped : level.IsWellTyped alphabet supply declared .f32) :
    (sample (Identifier.textureVariable binding.name) (Identifier.samplerVariable binding.name)
      coordinate level).IsWellTyped alphabet supply declared .vec4 := by
  intro sound reading parses
  cases parses with
  | sample textureWord samplerWord coordinateParses levelParses =>
      refine .sample known dimensioned (typed (sound.of_subset fun _ member => ?_) _ coordinateParses)
        (levelTyped (sound.of_subset fun _ member => ?_) _ levelParses)
      · exact .tail _ (List.mem_append_left _ member)
      · exact .tail _ (List.mem_append_right _ member)

/-- A vector that is normalized is read with its type. -/
theorem normalized {value : Term} (vector : type.isVector)
    (typed : value.IsWellTyped alphabet supply declared type) :
    (normalize value).IsWellTyped alphabet supply declared type := by
  intro sound reading parses
  cases parses with
  | normalize parses =>
      exact .normalize vector (typed (sound.of_subset fun _ member => .tail _ member) _ parses)

/-- A number is read as a scalar. -/
theorem number {value : Single} : (number value).IsWellTyped alphabet supply declared .f32 := by
  intro sound reading parses
  cases parses with
  | number => exact .numeral (Binary.numeral_wellFormed _ _)

/-- A field of the inputs is read with its type. -/
theorem field {name : String} (member : (name, type) ∈ declared.config.members) :
    (Term.field declared.config.inputName name).IsWellTyped alphabet supply declared type := by
  intro sound reading parses
  cases parses with
  | field objectWord memberWord => exact .field member

/-- The name of a local is read with the type of the local. -/
theorem held {entry : LocalVariable} (member : entry ∈ declared.locals) :
    (Term.name entry.name).IsWellTyped alphabet supply declared entry.type := by
  intro sound reading parses
  cases parses with
  | name word => exact .held member

/-- A supplied text is read with the type that it was brought with. -/
theorem verbatim {value : Value Empty} {text : String} (supplied : supply.has value)
    (brought : value.snippet? = some text) :
    (Term.verbatim text).IsWellTyped alphabet supply declared value.type := by
  intro sound reading parses
  cases parses with
  | verbatim read => exact .brought supplied brought read

/-- A direction that the matrix of the view turns is read as four lanes. -/
theorem turned {direction : Term}
    (matrix : ⟨declared.config.viewMatrix, .mat4⟩ ∈ declared.config.params)
    (typed : direction.IsWellTyped alphabet supply declared .vec4) :
    (product direction (name declared.config.viewMatrix)).IsWellTyped alphabet supply declared
      .vec4 := by
  intro sound reading parses
  cases parses with
  | @product _ _ first second inner leftParses rightParses read =>
      have takes := sound.operands .multiply _ _ (mem_parts _) first second
        leftParses.spells.read rightParses.spells.read
      rw [(leftParses.operand_parts .multiply rightParses read).1.mpr takes]
      have inside := typed
        (sound.of_subset fun _ member => .tail _ (List.mem_append_left _ member)) first leftParses
      cases rightParses with
      | name word => exact .group (.turned inside matrix)

/-- A normal is read as three lanes in every space. -/
theorem normal (matrix : ⟨declared.config.viewMatrix, .mat4⟩ ∈ declared.config.params)
    (space : NormalSpace) :
    (declared.config.normal space).IsWellTyped alphabet supply declared .vec3 := by
  have direction : (Term.field declared.config.inputName declared.config.viewNormalField).IsWellTyped
      alphabet supply declared .vec3 := .field (by simp [Config.members])
  cases space with
  | object => exact .field (by simp [Config.members])
  | view => exact .normalized rfl direction
  | world =>
      have extended : (Term.vector .vec4 1
          (.field declared.config.inputName declared.config.viewNormalField) [.zero]).IsWellTyped
            alphabet supply declared .vec4 :=
        .vector ⟨rfl, .inr ⟨[3, 1], rfl, rfl⟩⟩ direction
      exact .normalized rfl (.lanes .quadrupleTriple (.turned matrix extended))

end IsWellTyped

end Term

variable {builder after later : Builder Empty} {demand : Demand} {expression : TypedTerm}

/-- More is declared, under the same configuration. -/
structure Declarations.Extends (declared before : Declarations) : Prop where
  config : declared.config = before.config
  locals : before.locals <+: declared.locals
  textures : before.textures <+: declared.textures

/-- What extends a builder extends those before it. -/
theorem Declarations.Extends.before (extended : declared.Extends later.declarations)
    (grown : later.Extends builder) : declared.Extends builder.declarations where
  config := extended.config.trans grown.config
  locals := grown.locals.trans extended.locals
  textures := grown.textures.trans extended.textures

/-- A type is kept whatever the frames of the builder are. -/
theorem Term.HasType.kept {term : Term} {type : ValueType}
    (typed : term.HasType supply builder.declarations type)
    (extended : declared.Extends builder.declarations) : term.HasType supply declared type := by
  have grown : Builder.Extends
      ⟨declared.config, builder.frames, builder.floor, declared.locals, declared.textures⟩ builder :=
    ⟨extended.config, rfl, rfl, extended.locals, extended.textures⟩
  exact typed.extends grown

/-- What is generated is well typed wherever it is declared, by induction on the derivation. -/
theorem Generates.wellTyped (generates : Generates supply builder demand expression after)
    (matrix : ⟨builder.config.viewMatrix, .mat4⟩ ∈ builder.config.params)
    (held : ∀ declared ∈ builder.locals, declared.Holds supply)
    (extended : declared.Extends after.declarations) :
    expression.term.IsWellTyped alphabet supply declared expression.type := by
  induction generates with
  | @expression builder id snippet type output supplied => exact .verbatim supplied rfl
  | inlined finite => exact .number
  | @declared builder id value output text supplied written =>
      have declares : Generates supply builder (.raw (.float id value false) output) _ _ :=
        .declared supplied written
      obtain ⟨entry, member, _, named⟩ := builder.declareLocal_member id .f32 text
      have type := (declares.holds held entry member).type
      exact named ▸ type ▸ .held (extended.locals.subset member)
  | @normal builder id space output =>
      have same : builder.config = declared.config := extended.config.symm
      rw [same] at matrix ⊢
      exact .normal matrix space
  | context inside ih => exact ih matrix held ⟨extended.config, extended.locals, extended.textures⟩
  | override found inside ih => exact ih matrix held extended
  | fallback missing inside ih => exact ih matrix held extended
  | @sample _ _ _ _ _ texture _ _ _ dimension _ supplied addressed dimensioned blurred finite
      registered first second =>
      have registers := Builder.registerTexture_extends registered
      have coordinate := first matrix held (extended.before (registers.trans blurred.extends))
      have roughness := second (addressed.extends.config ▸ matrix) (addressed.holds held)
        (extended.before registers)
      rw [blurred.roughness_type_eq] at roughness
      have member := extended.textures.subset (Builder.registerTexture_member registered)
      exact @Term.IsWellTyped.sampled _ _ _ _ ⟨texture, dimension⟩ _ _ member dimensioned coordinate
        (.operated .multiply roughness .number)
  | binary leftDone rightDone unified first second =>
      have left := first matrix held (extended.before rightDone.extends)
      have right := second (leftDone.extends.config ▸ matrix) (leftDone.holds held) extended
      obtain ⟨leftTyped, rightTyped⟩ := left.unified right unified
      exact .operated _ leftTyped rightTyped
  | @mix builder _ _ _ _ _ _ _ _ type _ _ _ _ _ leftDone rightDone unified factorDone first second
      third =>
      have kept := leftDone.extends
      have middle := extended.before factorDone.extends
      have start := middle.before rightDone.extends
      have left := first matrix held start
      have right := second (kept.config ▸ matrix) (leftDone.holds held) middle
      have factor := third ((rightDone.extends.trans kept).config ▸ matrix)
        (rightDone.holds (leftDone.holds held)) extended
      obtain ⟨leftTyped, rightTyped⟩ := left.unified right unified
      rw [factorDone.type_eq] at factor
      intro sound
      have mixable : type ≠ .mat4 := by
        have first := (leftDone.typed matrix held).kept start
        have second := (rightDone.typed (kept.config ▸ matrix) (leftDone.holds held)).kept middle
        rintro rfl
        exact sound.mixes _ _ _ (Term.mem_parts _) (TypedTerm.IsTyped.unified first second unified).1
      exact leftTyped.mixed mixable rightTyped factor sound
  | converted inside conversion ih =>
      have converts := TypedTerm.coerce_converts conversion
      rw [converts.type]
      exact (ih matrix held extended).converted converts
  | tree inside ih => exact ih matrix held extended
  | @literal builder snippet output expression supplied conversion =>
      have converts := TypedTerm.coerce_converts conversion
      have typed : snippet.typed.term.IsWellTyped alphabet supply declared snippet.typed.type :=
        .verbatim supplied rfl
      rw [converts.type]
      exact typed.converted converts
  | redirected found inside ih => exact ih matrix held extended
  | @input builder missing =>
      have same : builder.config = declared.config := extended.config.symm
      rw [same]
      have member : (declared.config.uvField, .vec2) ∈ declared.config.members :=
        List.mem_cons_self ..
      exact .field member
  | rough found inside ih => exact ih matrix held extended
  | smooth missing => exact .number

/-- A build gives a text that is read as an expression. It is well typed at the output under what the
module declares, if operators take the operands that were generated for them and no matrices are
mixed. -/
theorem build_wellTyped {Host : Type} (alphabet : Alphabet)
    (custom : Empty → NodeId → ValueType → Program Empty Host TypedTerm) (fuel : Nat)
    (root : Node Empty) (output : ValueType) (start last : Machine Empty Host) (fragment : Fragment)
    (accepted : start.builder.config.validate = .ok ())
    (texts : (Supply.ofParts start.builder.frames root).Legible alphabet)
    (ends : Action.build (generate custom fuel) root output start = (.done fragment, last)) :
    ∃ whole, alphabet.read? fragment.expression.text = some whole ∧
      fragment.expression.type = output ∧
      (fragment.expression.term.IsSound alphabet (.ofParts start.builder.frames root)
          (fragment.declarations start.builder.config) →
        whole.HasType alphabet (.ofParts start.builder.frames root)
          (fragment.declarations start.builder.config) output) := by
  obtain ⟨after, generates, locals, textures, _⟩ := build_derives ends
  have matrix := Config.viewMatrix_mem accepted
  have worded : start.builder.reset.declarations.Worded :=
    ⟨Config.worded accepted, fun _ member => Config.isWord_param accepted member, nofun⟩
  have kept : after.locals <+: fragment.locals ∧ after.textures <+: fragment.textures :=
    ⟨locals ▸ List.prefix_rfl, textures ▸ List.prefix_rfl⟩
  have declared : (fragment.declarations start.builder.config).Extends after.declarations :=
    ⟨generates.extends.config.symm, kept.1, kept.2⟩
  obtain ⟨whole, parses⟩ := generates.legible texts worded
  refine ⟨whole, parses.spells.read, generates.type_eq, fun sound => ?_⟩
  have typed := generates.wellTyped matrix nofun declared sound whole parses
  rw [generates.type_eq] at typed
  exact typed

/-- Every sample has four lanes. -/
theorem Term.HasType.sample_type {texture sampler : String} {coordinate level : Term}
    {type : ValueType} (typed : (Term.sample texture sampler coordinate level).HasType supply declared
      type) : type = .vec4 := by
  generalize same : Term.sample texture sampler coordinate level = term at typed
  cases typed with
  | sample => rfl
  | verbatim | number | held | parameter | field | group | lanes | vector | sum | product | turned
  | mix | normalize => cases same

/-- The expression of the blend is read as a well typed one. -/
theorem blend_wellTyped :
    let alphabet : Alphabet := ⟨Identifier.isWordCharacter, fun _ _ => rfl⟩
    let supply := Supply.ofParts [] blendTree
    Config.default.validate = .ok () ∧ supply.Legible alphabet ∧
      blendFragment.expression.term.IsSound alphabet supply (blendFragment.declarations .default) ∧
      ∃ whole, alphabet.read? blendFragment.expression.text = some whole ∧
        whole.HasType alphabet supply (blendFragment.declarations .default) .vec4 := by
  intro alphabet supply
  have accepted : Config.default.validate = .ok () := rfl
  have legible : supply.Legible alphabet := by
    intro value part text brought
    rw [blendTree_snippet part brought]
    exact ⟨_, rfl⟩
  have sound : blendFragment.expression.term.IsSound alphabet supply
      (blendFragment.declarations .default) := by
    refine ⟨fun operation left right member first second leftRead rightRead => ?_,
      fun left right factor member typed => ?_⟩
    · have numbers : operation = .multiply ∧ left = .number (Binary.zero false) ∧
          right = .number (Single.ofWord 0x41000000) := by
        cases operation with
        | add => simp [blendFragment, Builder.assemble, Term.parts, BinaryOperation.term] at member
        | multiply =>
            simpa [blendFragment, Builder.assemble, Term.parts, BinaryOperation.term] using member
      obtain ⟨rfl, rfl, rfl⟩ := numbers
      have number (value : Single) (reading : Expression)
          (read : alphabet.read? (Term.number value).text = some reading) :
          reading.isBinary = false := by
        have known : alphabet.read? (Term.number value).text = _ := Term.Parses.number.spells.read
        rw [known, Option.some.injEq] at read
        exact read ▸ Expression.ofNumeral_isBinary _
      exact ⟨Expression.isTight_of_simple (number _ first leftRead) _,
        Expression.isTight_of_simple (number _ second rightRead) _⟩
    · have sampled : ∃ texture sampler coordinate level,
          left = .sample texture sampler coordinate level := by
        simp [blendFragment, Builder.assemble, Term.parts] at member
        exact ⟨_, _, _, _, member.1⟩
      obtain ⟨_, _, _, _, rfl⟩ := sampled
      cases typed.sample_type
  obtain ⟨last, ends⟩ := blendTree_builds Empty.elim
  obtain ⟨whole, read, _, typed⟩ := build_wellTyped alphabet Empty.elim 2 blendTree .vec4 _ last
    blendFragment accepted legible ends
  exact ⟨accepted, legible, sound, whole, read, typed sound⟩

/-- A mix that was not brought as a text is no matrix. -/
theorem Expression.HasType.mix_cases {left right factor : Expression} {type : ValueType}
    (typed : (Expression.call "mix" [left, right, factor]).HasType alphabet supply declared type) :
    (∃ value text, supply.has value ∧ value.snippet? = some text ∧
      alphabet.read? text = some (.call "mix" [left, right, factor])) ∨ type ≠ .mat4 := by
  generalize same : Expression.call "mix" [left, right, factor] = expression at typed
  cases typed with
  | brought supplied brought read => exact .inl ⟨_, _, supplied, brought, same ▸ read⟩
  | @numeral numeral formed =>
      unfold Expression.ofNumeral at same
      split at same
      · cases same
      · cases same
  | vector composed typed =>
      have named : "mix" = type.wgsl := (Expression.call.inj same).1
      cases type with
      | f32 | vec2 | vec3 | vec4 | mat4 => exact absurd named (by decide)
  | mix mixable leftTyped rightTyped factorTyped => exact .inr mixable
  | normalize => exact absurd (Expression.call.inj same).1 (by decide)
  | sample => exact absurd (Expression.call.inj same).1 (by decide)
  | held | parameter | field | group | swizzle | sum | product | turned => cases same

/-- Two matrices are mixed by a half. -/
def matrixMixTree : Node Empty :=
  .mix 3 (.expression 0 "view_matrix" .mat4) (.expression 1 "view_matrix" .mat4)
    (.float 2 (Single.ofWord 0x3f000000) true)

/-- Every text that the tree brings is the matrix of the view. -/
theorem matrixMixTree_parts {value : Value Empty} {text : String}
    (part : (Supply.ofParts [] matrixMixTree).has value) (brought : value.snippet? = some text) :
    text = "view_matrix" ∧ value.type = .mat4 := by
  have known : value ∈ [.node matrixMixTree, .node (.expression 0 "view_matrix" .mat4),
      .node (.expression 1 "view_matrix" .mat4),
      .node (.float 2 (Single.ofWord 0x3f000000) true)] := by
    simpa [Supply.ofParts, Frames.partsWith, matrixMixTree, Node.parts] using part
  simp only [List.mem_cons, List.not_mem_nil, or_false] at known
  rcases known with rfl | rfl | rfl | rfl
  · cases brought
  · cases brought
    exact ⟨rfl, rfl⟩
  · cases brought
    exact ⟨rfl, rfl⟩
  · cases brought

/-- A mix of two matrices is built, and has no type. -/
theorem matrixMix_ill_typed :
    let alphabet : Alphabet := ⟨Identifier.isWordCharacter, fun _ _ => rfl⟩
    let supply := Supply.ofParts [] matrixMixTree
    ∃ fragment last, Action.build (generate nofun 2) matrixMixTree .mat4
        ⟨.ofConfig .default, (), []⟩ = (.done fragment, last) ∧
      fragment.expression.text = "mix(view_matrix, view_matrix, 0.5)" ∧
      (∀ value text, supply.has value → value.snippet? = some text →
        (Expression.atom text).HasType alphabet supply (fragment.declarations .default) value.type) ∧
      ∀ whole, alphabet.read? fragment.expression.text = some whole →
        ¬whole.HasType alphabet supply (fragment.declarations .default) .mat4 := by
  intro alphabet supply
  obtain ⟨fragment, last, ends, spelled⟩ : ∃ fragment last, Action.build (generate nofun 2)
      matrixMixTree .mat4 ⟨.ofConfig .default, (), []⟩ = (.done fragment, last) ∧
        fragment.expression.text = "mix(view_matrix, view_matrix, 0.5)" := ⟨_, _, rfl, rfl⟩
  refine ⟨fragment, last, ends, spelled, fun value text part brought => ?_, fun whole read typed => ?_⟩
  · obtain ⟨rfl, type⟩ := matrixMixTree_parts part brought
    have param : (⟨"view_matrix", .mat4⟩ : Param) ∈ (fragment.declarations .default).config.params :=
      List.mem_cons_self ..
    exact type ▸ .parameter param
  · have known : alphabet.read? "mix(view_matrix, view_matrix, 0.5)" =
        some (.call "mix" [.atom "view_matrix", .atom "view_matrix", .atom "0.5"]) := rfl
    rw [spelled, known, Option.some.injEq] at read
    rw [← read] at typed
    obtain ⟨value, text, part, brought, named⟩ | mixable := typed.mix_cases
    · obtain ⟨rfl, _⟩ := matrixMixTree_parts part brought
      have atom : alphabet.read? "view_matrix" = some (.atom "view_matrix") := rfl
      rw [atom] at named
      cases named
    · exact mixable rfl

end ShadeTree
