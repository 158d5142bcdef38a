import ShadeTree.Proofs.Declaration.Words
import ShadeTree.Proofs.Generation.Soundness
import ShadeTree.Proofs.Reading.Composite

/-!
How the operations of generated expressions are read.

An operation is written in parentheses, and its operands as they are. A text that the author of a graph
brings is then taken apart by a tighter operator.
-/

namespace ShadeTree

open Number Reading

variable {alphabet : Alphabet} {supply : Supply Empty} {builder after : Builder Empty}
  {demand : Demand} {expression result left right first second : TypedTerm}
  {target type : ValueType}

/-- Every text that the author of a graph brings is an expression. -/
def Supply.Legible (supply : Supply Empty) (alphabet : Alphabet) : Prop :=
  ∀ value, supply.has value → ∀ text, value.snippet? = some text →
    ∃ reading, alphabet.read? text = some reading

namespace TypedTerm

def IsLegible (alphabet : Alphabet) (expression : TypedTerm) : Prop :=
  ∃ reading, expression.term.Parses alphabet reading

/-- What is legible stays so when it is converted. -/
theorem IsLegible.converted (legible : expression.IsLegible alphabet)
    (converts : Converts expression target result) : result.IsLegible alphabet := by
  obtain ⟨reading, parses⟩ := legible
  cases converts with
  | same => exact ⟨reading, parses⟩
  | spread spread => exact ⟨_, .vector spread.pos parses⟩
  | narrowed narrowing => exact ⟨_, .lanes rfl narrowing.pos (.group parses)⟩

/-- Legible operands are legible in their common type. -/
theorem IsLegible.unified (leftLegible : left.IsLegible alphabet)
    (rightLegible : right.IsLegible alphabet) (done : left.unify right = .ok (first, second, type)) :
    first.IsLegible alphabet ∧ second.IsLegible alphabet := by
  obtain ⟨_, _, rfl, rfl⟩ | ⟨_, _, _, converts, rfl⟩ | ⟨_, _, _, rfl, converts⟩ := unify_converts done
  · exact ⟨leftLegible, rightLegible⟩
  · exact ⟨leftLegible.converted converts, rightLegible⟩
  · exact ⟨leftLegible, rightLegible.converted converts⟩

end TypedTerm

/-- Every normal is legible if the names of its configuration are words. -/
theorem Config.normal_legible {config : Config} (worded : config.Worded) (space : NormalSpace)
    (isConst : Bool) : (⟨.vec3, config.normal space, isConst⟩ : TypedTerm).IsLegible alphabet := by
  have direction : (Term.field config.inputName config.viewNormalField).Parses alphabet _ :=
    .field worded.inputName worded.viewNormalField
  cases space with
  | object => exact ⟨_, .field worded.inputName worded.normalField⟩
  | view => exact ⟨_, .normalize direction⟩
  | world =>
      have extended : (Term.vector .vec4 1 (.field config.inputName config.viewNormalField)
          [.zero]).Parses alphabet _ := .vector Nat.one_pos direction
      obtain ⟨_, turned⟩ := extended.exists_operation .multiply (.name worded.viewMatrix)
      exact ⟨_, .normalize (.lanes rfl (by decide) turned)⟩

/-- The name of a new local is a word. -/
theorem Builder.declareLocal_worded (worded : ∀ entry ∈ builder.locals, IsWord entry.name)
    (owner : NodeId) (initializer : String) :
    ∀ entry ∈ (builder.declareLocal owner type initializer).2.locals, IsWord entry.name := by
  obtain ⟨_, _, _, equal⟩ | ⟨_, equal⟩ := builder.declareLocal_spec owner type initializer
  · rw [equal]
    exact worded
  · rw [equal]
    intro entry member
    rcases List.mem_append.mp member with old | new
    · exact worded entry old
    · rw [List.mem_singleton.mp new]
      exact isWord_localName type _

/-- Everything that a derivation declares has a word for its name. -/
theorem Generates.worded (generates : Generates supply builder demand expression after)
    (worded : builder.declarations.Worded) : after.declarations.Worded := by
  have same : builder.declarations.config = after.declarations.config :=
    generates.extends.config.symm
  refine ⟨same ▸ worded.config, same ▸ worded.params, ?_⟩
  refine generates.keeps_locals (fun locals => ∀ entry ∈ locals, IsWord entry.name) ?_ worded.locals
  intro builder id value text _ _ known
  exact Builder.declareLocal_worded known id text

/-- What is generated can be read, by induction on the derivation. -/
theorem Generates.legible (generates : Generates supply builder demand expression after)
    (texts : supply.Legible alphabet) (worded : builder.declarations.Worded) :
    expression.IsLegible alphabet := by
  induction generates with
  | expression supplied =>
      obtain ⟨reading, read⟩ := texts _ supplied _ rfl
      exact ⟨reading, .verbatim read⟩
  | inlined finite => exact ⟨_, .number⟩
  | @declared builder id value output text supplied written =>
      have declares : Generates supply builder (.raw (.float id value false) output) _ _ :=
        .declared supplied written
      obtain ⟨entry, member, _, named⟩ := builder.declareLocal_member id .f32 text
      exact ⟨_, .name (named ▸ (declares.worded worded).locals entry member)⟩
  | normal => exact Config.normal_legible worded.config _ _
  | context inside ih => exact ih ⟨worded.config, worded.params, worded.locals⟩
  | override found inside ih | redirected found inside ih | rough found inside ih => exact ih worded
  | fallback missing inside ih => exact ih worded
  | tree inside ih => exact ih worded
  | @sample _ _ _ _ _ texture _ _ _ _ _ supplied addressed dimensioned blurred finite registered first
      second =>
      obtain ⟨place, placeParses⟩ := first worded
      obtain ⟨_, roughnessParses⟩ := second (addressed.worded worded)
      obtain ⟨_, levelParses⟩ := roughnessParses.exists_operation .multiply .number
      exact ⟨_, .sample (Identifier.isWord_textureVariable _) (Identifier.isWord_samplerVariable _)
        placeParses levelParses⟩
  | binary leftDone rightDone unified first second =>
      obtain ⟨⟨_, left⟩, ⟨_, right⟩⟩ :=
        (first worded).unified (second (leftDone.worded worded)) unified
      exact left.exists_operation _ right
  | mix leftDone rightDone unified factorDone first second third =>
      have later := rightDone.worded (leftDone.worded worded)
      obtain ⟨⟨_, left⟩, ⟨_, right⟩⟩ :=
        (first worded).unified (second (leftDone.worded worded)) unified
      obtain ⟨_, factor⟩ := third later
      exact ⟨_, .mix left right factor⟩
  | converted inside conversion ih =>
      exact (ih worded).converted (TypedTerm.coerce_converts conversion)
  | @literal builder snippet output expression supplied conversion =>
      obtain ⟨reading, read⟩ := texts _ supplied _ rfl
      have legible : snippet.typed.IsLegible alphabet := ⟨reading, .verbatim read⟩
      exact legible.converted (TypedTerm.coerce_converts conversion)
  | input missing => exact ⟨_, .field worded.config.inputName worded.config.uvField⟩
  | smooth missing => exact ⟨_, .number⟩

/-- What is generated is read as an expression in which every product and every sum has its own
parentheses. It has the two operands that were generated for it if and only if its operator takes
what these are read as, and only a text that was brought can be too loose. -/
theorem generate_operations {Host : Type} (alphabet : Alphabet)
    (custom : Empty → NodeId → ValueType → Program Empty Host TypedTerm) (fuel : Nat)
    (root : Node Empty) (output : ValueType) (start last : Machine Empty Host)
    (expression : TypedTerm) (worded : start.builder.declarations.Worded)
    (texts : (Supply.ofParts start.builder.frames root).Legible alphabet)
    (ends : generate custom fuel root output start = (.done expression, last)) :
    ∃ whole, alphabet.read? expression.text = some whole ∧
      ∀ operation left right, BinaryOperation.term operation left right ∈ expression.term.parts →
        ∃ first second inner, operation.Reads alphabet left right first second inner ∧
          .group inner ∈ whole.parts := by
  have derives := generate_derives custom (.ofParts start.builder.frames root) fuel
    (Supply.ofParts_root _ root) (Supply.ofParts_covers _ root) ends
  obtain ⟨whole, parses⟩ := derives.legible texts worded
  exact ⟨whole, parses.spells.read, fun _ _ _ member => parses.operations member⟩

/-- A product of two texts. -/
def productTree (first second : String) : Node Empty :=
  .binary 2 .multiply (.expression 0 first .f32) (.expression 1 second .f32)

/-- A product is legible if its two texts are. -/
theorem productTree_legible {first second : String} {leftReading rightReading : Expression}
    (leftRead : alphabet.read? first = some leftReading)
    (rightRead : alphabet.read? second = some rightReading) :
    (Supply.ofParts [] (productTree first second)).Legible alphabet := by
  intro value part text brought
  have known : value ∈ [.node (productTree first second), .node (.expression 0 first .f32),
      .node (.expression 1 second .f32)] := by
    simpa [Supply.ofParts, Frames.partsWith, productTree, Node.parts] using part
  simp only [List.mem_cons, List.not_mem_nil, or_false] at known
  rcases known with rfl | rfl | rfl
  · cases brought
  · cases brought
    exact ⟨leftReading, leftRead⟩
  · cases brought
    exact ⟨rightReading, rightRead⟩

/-- A text that is a product itself stays whole on the left of a product. -/
theorem tight_product_keeps_operands :
    let alphabet : Alphabet := ⟨Identifier.isWordCharacter, fun _ _ => rfl⟩
    let start : Machine Empty Unit := ⟨.ofConfig .default, (), []⟩
    let tree := productTree "2.0 * roughnessFactor" "roughnessFactor"
    start.builder.declarations.Worded ∧ (Supply.ofParts [] tree).Legible alphabet ∧
      ∃ expression last first second, generate nofun 2 tree .f32 start = (.done expression, last) ∧
        alphabet.read? "2.0 * roughnessFactor" = some first ∧
        alphabet.read? "roughnessFactor" = some second ∧
        alphabet.read? expression.text = some (.group (.binary .times first second)) := by
  intro alphabet start tree
  have accepted : Config.default.validate = .ok () := rfl
  have worded : start.builder.declarations.Worded :=
    ⟨Config.worded accepted, fun _ member => Config.isWord_param accepted member, nofun⟩
  have leftKnown : alphabet.read? "2.0 * roughnessFactor" =
      some (.binary .times (.atom "2.0") (.atom "roughnessFactor")) := rfl
  have rightKnown : alphabet.read? "roughnessFactor" = some (.atom "roughnessFactor") := rfl
  have legible : (Supply.ofParts [] tree).Legible alphabet := productTree_legible leftKnown rightKnown
  obtain ⟨expression, last, ends, term⟩ : ∃ expression last,
      generate nofun 2 tree .f32 start = (.done expression, last) ∧ expression.term =
        BinaryOperation.multiply.term (.verbatim "2.0 * roughnessFactor")
          (.verbatim "roughnessFactor") := ⟨_, _, rfl, rfl⟩
  obtain ⟨_, _, operations⟩ := generate_operations alphabet nofun 2 tree .f32 start last expression
    worded legible ends
  have member : BinaryOperation.multiply.term (.verbatim "2.0 * roughnessFactor")
      (.verbatim "roughnessFactor") ∈ expression.term.parts := by
    rw [term]
    exact List.mem_cons_self ..
  obtain ⟨first, second, inner, reads, _⟩ := operations _ _ _ member
  have leftRead : alphabet.read? "2.0 * roughnessFactor" = some first := reads.leftRead
  have rightRead : alphabet.read? "roughnessFactor" = some second := reads.rightRead
  have takes : Operator.times.Takes first second := by
    rw [leftKnown, Option.some.injEq] at leftRead
    rw [rightKnown, Option.some.injEq] at rightRead
    rw [← leftRead, ← rightRead]
    exact ⟨rfl, rfl⟩
  have whole := reads.read
  rw [reads.takes.mpr takes, ← term] at whole
  exact ⟨worded, legible, expression, last, first, second, ends, leftRead, rightRead, whole⟩

/-- A sum on the left of a product gives its last operand away. -/
theorem loose_product_loses_operand :
    let alphabet : Alphabet := ⟨Identifier.isWordCharacter, fun _ _ => rfl⟩
    let start : Machine Empty Unit := ⟨.ofConfig .default, (), []⟩
    let factor := Expression.atom "roughnessFactor"
    ∃ expression last, generate nofun 2 (productTree "roughnessFactor + 1.0" "roughnessFactor") .f32
        start = (.done expression, last) ∧
      expression.term = .product (.verbatim "roughnessFactor + 1.0") (.verbatim "roughnessFactor") ∧
      alphabet.read? "roughnessFactor + 1.0" = some (.binary .plus factor (.atom "1.0")) ∧
      alphabet.read? "roughnessFactor" = some factor ∧
      alphabet.read? expression.text =
        some (.group (.binary .plus factor (.binary .times (.atom "1.0") factor))) ∧
      alphabet.read? expression.text ≠
        some (.group (.binary .times (.binary .plus factor (.atom "1.0")) factor)) := by
  intro alphabet start factor
  refine ⟨_, _, rfl, rfl, rfl, rfl, rfl, ?_⟩
  intro same
  cases same

end ShadeTree
