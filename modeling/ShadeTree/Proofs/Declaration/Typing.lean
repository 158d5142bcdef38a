import ShadeTree.Proofs.Generation.Conversion
import ShadeTree.Proofs.Generation.Tables

/-!
The types of terms.

A term has a type under the declarations of a module: the members of the input and the parameters of
the entry function, its locals, and the bindings of textures. A term that has one refers to nothing
else, besides the texts that the author of a graph brings.
-/

namespace ShadeTree

/-- What a module declares around its expression. -/
structure Declarations where
  config : Config
  locals : List LocalVariable
  textures : List TextureBinding

def Builder.declarations (builder : Builder Empty) : Declarations :=
  ⟨builder.config, builder.locals, builder.textures⟩

def Fragment.declarations (fragment : Fragment) (config : Config) : Declarations :=
  ⟨config, fragment.locals, fragment.textures⟩

/-- The members of the input struct. -/
def Config.members (config : Config) : List (String × ValueType) :=
  [(config.uvField, .vec2), (config.normalField, .vec3), (config.viewNormalField, .vec3)]

/-- The components of a vector add up to its lanes, or a scalar alone fills them all. -/
def ValueType.Composes (source target : ValueType) (copies : Nat) (pads : List Pad) : Prop :=
  target.isVector ∧
    (source = .f32 ∧ copies = 1 ∧ pads = [] ∨
      ∃ lanes, source.lanes? = some lanes ∧ target.lanes? = some (copies * lanes + pads.length))

/-- Copies and pads fill the target. -/
theorem Spread.composes {source target : ValueType} {copies : Nat} {pads : List Pad}
    (spread : Spread source target copies pads) : source.Composes target copies pads := by
  cases spread with
  | scalarPair | scalarTriple => exact ⟨rfl, .inl ⟨rfl, rfl, rfl⟩⟩
  | scalarQuadruple | pairTriple | pairQuadruple | tripleQuadruple => exact ⟨rfl, .inr ⟨_, rfl, rfl⟩⟩

namespace Term

/-- The type of a term. A text has the type that it was brought with. -/
inductive HasType (supply : Supply Empty) (declared : Declarations) : Term → ValueType → Prop
  | verbatim {value : Value Empty} {text : String} (supplied : supply.has value)
      (brought : value.snippet? = some text) : HasType supply declared (.verbatim text) value.type
  | number {value : Number.Single} : HasType supply declared (.number value) .f32
  | held {entry : LocalVariable} (member : entry ∈ declared.locals) :
      HasType supply declared (.name entry.name) entry.type
  | parameter {param : Param} (member : param ∈ declared.config.params) :
      HasType supply declared (.name param.name) param.type
  | field {name : String} {type : ValueType} (member : (name, type) ∈ declared.config.members) :
      HasType supply declared (.field declared.config.inputName name) type
  | group {inner : Term} {type : ValueType} (typed : HasType supply declared inner type) :
      HasType supply declared (.group inner) type
  | lanes {value : Term} {source target : ValueType} {count : Nat}
      (narrowing : Narrowing source target count) (typed : HasType supply declared value source) :
      HasType supply declared (.lanes value count) target
  | vector {value : Term} {source target : ValueType} {copies : Nat} {pads : List Pad}
      (composes : source.Composes target copies pads)
      (typed : HasType supply declared value source) :
      HasType supply declared (.vector target copies value pads) target
  | sum {left right : Term} {type : ValueType} (leftTyped : HasType supply declared left type)
      (rightTyped : HasType supply declared right type) :
      HasType supply declared (.sum left right) type
  | product {left right : Term} {type : ValueType} (leftTyped : HasType supply declared left type)
      (rightTyped : HasType supply declared right type) :
      HasType supply declared (.product left right) type
  /-- A row vector times a matrix. -/
  | turned {left right : Term} (leftTyped : HasType supply declared left .vec4)
      (rightTyped : HasType supply declared right .mat4) :
      HasType supply declared (.product left right) .vec4
  | mix {left right factor : Term} {type : ValueType} (leftTyped : HasType supply declared left type)
      (rightTyped : HasType supply declared right type)
      (factorTyped : HasType supply declared factor .f32) :
      HasType supply declared (.mix left right factor) type
  | normalize {value : Term} (typed : HasType supply declared value .vec3) :
      HasType supply declared (.normalize value) .vec3
  /-- The dimension of a texture is the one that its coordinate requires. -/
  | sample {binding : TextureBinding} {coordinate level : Term} {type : ValueType}
      (member : binding ∈ declared.textures) (typed : HasType supply declared coordinate type)
      (dimensioned : Dimension.ofCoordinate? type = some binding.dimension)
      (levelTyped : HasType supply declared level .f32) :
      HasType supply declared
        (.sample (Identifier.textureVariable binding.name) (Identifier.samplerVariable binding.name)
          coordinate level) .vec4

end Term

open Term

variable {supply : Supply Empty} {builder later after : Builder Empty}

/-- A term keeps its type while more is declared. -/
theorem Term.HasType.extends {term : Term} {type : ValueType}
    (typed : term.HasType supply builder.declarations type) (grown : later.Extends builder) :
    term.HasType supply later.declarations type := by
  have config : builder.config = later.config := grown.config.symm
  induction typed with
  | verbatim supplied brought => exact .verbatim supplied brought
  | number => exact .number
  | held member => exact .held (grown.locals.subset member)
  | parameter member =>
      have same : builder.declarations.config = later.declarations.config := config
      rw [same] at member
      exact .parameter member
  | field member =>
      have same : builder.declarations.config = later.declarations.config := config
      rw [same] at member ⊢
      exact .field member
  | group typed ih => exact .group ih
  | lanes narrowing typed ih => exact .lanes narrowing ih
  | vector composes typed ih => exact .vector composes ih
  | sum leftTyped rightTyped left right => exact .sum left right
  | product leftTyped rightTyped left right => exact .product left right
  | turned leftTyped rightTyped left right => exact .turned left right
  | mix leftTyped rightTyped factorTyped left right factor => exact .mix left right factor
  | normalize typed ih => exact .normalize ih
  | sample member typed dimensioned levelTyped coordinate level =>
      exact .sample (grown.textures.subset member) coordinate dimensioned level

namespace TypedTerm

variable {declared : Declarations} {expression result left right first second : TypedTerm}
  {target type : ValueType}

/-- The term of an expression has the type that the expression is given. -/
def IsTyped (supply : Supply Empty) (declared : Declarations) (expression : TypedTerm) : Prop :=
  expression.term.HasType supply declared expression.type

/-- What is converted has the type that it is converted to. -/
theorem IsTyped.converted (typed : expression.IsTyped supply declared)
    (converts : Converts expression target result) : result.IsTyped supply declared := by
  cases converts with
  | same => exact typed
  | spread spread => exact .vector spread.composes typed
  | narrowed narrowing => exact .lanes narrowing (.group typed)

/-- Operands are typed alike. -/
theorem IsTyped.unified (leftTyped : left.IsTyped supply declared)
    (rightTyped : right.IsTyped supply declared)
    (done : left.unify right = .ok (first, second, type)) :
    first.term.HasType supply declared type ∧ second.term.HasType supply declared type := by
  obtain ⟨same, rfl, rfl, rfl⟩ | ⟨scalar, vector, rfl, converts, rfl⟩ |
    ⟨scalar, vector, rfl, rfl, converts⟩ := unify_converts done
  · exact ⟨leftTyped, same ▸ rightTyped⟩
  · exact ⟨converts.type ▸ leftTyped.converted converts, rightTyped⟩
  · exact ⟨leftTyped, converts.type ▸ rightTyped.converted converts⟩

end TypedTerm

/-- The three normals are vectors. -/
theorem Config.normal_typed {declared : Declarations}
    (matrix : ⟨declared.config.viewMatrix, .mat4⟩ ∈ declared.config.params) (space : NormalSpace) :
    (declared.config.normal space).HasType supply declared .vec3 := by
  have direction : (Term.field declared.config.inputName declared.config.viewNormalField).HasType
      supply declared .vec3 := .field (by simp [Config.members])
  cases space with
  | object => exact .field (by simp [Config.members])
  | view => exact .normalize direction
  | world =>
      have extended : (Term.vector .vec4 1
          (.field declared.config.inputName declared.config.viewNormalField) [.zero]).HasType
            supply declared .vec4 :=
        .vector ⟨rfl, .inr ⟨3, rfl, rfl⟩⟩ direction
      exact .normalize (.lanes .quadrupleTriple (.turned extended (.parameter matrix)))

/-- An operation has the type of its operands. -/
theorem BinaryOperation.typed {declared : Declarations} (operation : BinaryOperation)
    {left right : Term} {type : ValueType} (leftTyped : left.HasType supply declared type)
    (rightTyped : right.HasType supply declared type) :
    (operation.term left right).HasType supply declared type := by
  cases operation with
  | add => exact .sum leftTyped rightTyped
  | multiply => exact .product leftTyped rightTyped

/-- What is generated is typed under the declarations of the builder afterwards. -/
theorem Generates.typed {demand : Demand} {expression : TypedTerm}
    (generates : Generates supply builder demand expression after)
    (matrix : ⟨builder.config.viewMatrix, .mat4⟩ ∈ builder.config.params)
    (held : ∀ declared ∈ builder.locals, declared.Holds supply) :
    expression.IsTyped supply after.declarations := by
  induction generates with
  | @expression builder id snippet type output supplied => exact .verbatim supplied rfl
  | inlined finite => exact .number
  | @declared builder id value output text supplied written =>
      have declares : Generates supply builder (.raw (.float id value false) output) _ _ :=
        .declared supplied written
      obtain ⟨declared, member, _, named⟩ := builder.declareLocal_member id .f32 text
      have type := (declares.holds held declared member).type
      have typed : (Term.name declared.name).HasType supply
          (builder.declareLocal id .f32 text).2.declarations declared.type := .held member
      rw [type, named] at typed
      exact typed
  | normal => exact Config.normal_typed matrix _
  | context inside ih => exact ih matrix held
  | override found inside ih => exact ih matrix held
  | fallback missing inside ih => exact ih matrix held
  | @sample _ _ _ _ _ texture _ _ _ dimension _ supplied addressed dimensioned blurred finite
      registered first second =>
      have kept := addressed.extends
      have later := blurred.extends
      have registers := Builder.registerTexture_extends registered
      have coordinate := (first matrix held).extends (registers.trans later)
      have roughness := (second (kept.config ▸ matrix) (addressed.holds held)).extends registers
      rw [blurred.roughness_type_eq] at roughness
      have member := Builder.registerTexture_member registered
      -- Unification would open the identifiers in search of the binding.
      exact @HasType.sample _ _ ⟨texture, dimension⟩ _ _ _ member coordinate dimensioned
        (.product roughness .number)
  | binary leftDone rightDone unified first second =>
      have kept := leftDone.extends
      have left := (first matrix held).extends rightDone.extends
      have right := second (kept.config ▸ matrix) (leftDone.holds held)
      obtain ⟨leftTyped, rightTyped⟩ := TypedTerm.IsTyped.unified left right unified
      exact BinaryOperation.typed _ leftTyped rightTyped
  | mix leftDone rightDone unified factorDone first second third =>
      have kept := leftDone.extends
      have later := rightDone.extends.trans kept
      have last := factorDone.extends
      have left := (first matrix held).extends (last.trans rightDone.extends)
      have right := (second (kept.config ▸ matrix) (leftDone.holds held)).extends last
      have factor := third (later.config ▸ matrix) (rightDone.holds (leftDone.holds held))
      obtain ⟨leftTyped, rightTyped⟩ := TypedTerm.IsTyped.unified left right unified
      rw [TypedTerm.IsTyped, factorDone.type_eq] at factor
      exact .mix leftTyped rightTyped factor
  | converted inside conversion ih => exact (ih matrix held).converted (TypedTerm.coerce_converts conversion)
  | tree inside ih => exact ih matrix held
  | @literal builder snippet output expression supplied conversion =>
      have typed : snippet.typed.IsTyped supply builder.declarations := .verbatim supplied rfl
      exact typed.converted (TypedTerm.coerce_converts conversion)
  | redirected found inside ih => exact ih matrix held
  | @input builder missing =>
      have member : (builder.config.uvField, .vec2) ∈ builder.declarations.config.members :=
        List.mem_cons_self ..
      exact .field member
  | rough found inside ih => exact ih matrix held
  | smooth missing => exact .number

end ShadeTree
