import ShadeTree.Proofs.Generation.Tables
import ShadeTree.Proofs.Program.Run

/-!
Every generation of a tree of built-in nodes that is done has a derivation.
-/

namespace ShadeTree

open Number

/-- Only finite numbers have literals. -/
theorem Number.Single.isFinite_of_literal {value : Single} {text : String}
    (written : value.literal? = some text) : value.isFinite := by
  unfold Single.literal? at written
  split at written
  · assumption
  · cases written

/-! ### Running the programs of built-in nodes -/

namespace Program

variable {Custom Host : Type} {generateNode : Node Custom → ValueType → Action Custom Host TypedTerm}
  {start last : Machine Custom Host}

/-- A look into the frames gives what is found and leaves the machine. -/
theorem run_find (key : String) (start : Machine Custom Host) :
    (find? key).run generateNode start = (.done (start.builder.find? key), start) := rfl

theorem run_config (start : Machine Custom Host) :
    config.run generateNode start = (.done start.builder.config, start) := rfl

theorem run_generated (node : Node Custom) (output : ValueType) :
    (generated node output).run generateNode = generateNode node output :=
  Action.bind_done _

/-- A literal is given for the numbers that have one. -/
theorem run_literal {value : Single} {text : String} :
    (literal value).run generateNode start = (.done text, last) ↔
      value.literal? = some text ∧ last = start := by
  unfold literal
  cases value.literal? with
  | none =>
      constructor
      · intro ends
        cases ends
      · rintro ⟨written, _⟩
        cases written
  | some found =>
      constructor
      · intro ends
        cases ends
        exact ⟨rfl, rfl⟩
      · rintro ⟨written, rfl⟩
        cases written
        rfl

/-- A coercion gives its result and leaves the machine. -/
theorem run_ofCoercion {α : Type} {result : Except CoercionError α} {value : α} :
    (ofCoercion result).run generateNode start = (.done value, last) ↔
      result = .ok value ∧ last = start := by
  cases result with
  | error cause =>
      constructor
      · intro ends
        cases ends
      · rintro ⟨done, _⟩
        cases done
  | ok found =>
      constructor
      · intro ends
        cases ends
        exact ⟨rfl, rfl⟩
      · rintro ⟨done, rfl⟩
        cases done
        rfl

/-- A registration gives the index and leaves the builder that registered. -/
theorem run_registerTexture {name : String} {dimension : Dimension} {index : Nat} :
    (registerTexture name dimension .done).run generateNode start = (.done index, last) ↔
      ∃ builder, start.builder.registerTexture name dimension = .ok (index, builder) ∧
        last = start.update builder := by
  simp only [run, Action.bind_done]
  unfold Action.registerTexture
  cases start.builder.registerTexture name dimension with
  | error clash => simp [Action.fail, Action.abort]
  | ok result =>
      constructor
      · intro ends
        cases ends
        exact ⟨result.2, rfl, rfl⟩
      · rintro ⟨builder, equal, rfl⟩
        cases equal
        rfl

end Program

section Soundness

variable {Host : Type} {custom : Empty → NodeId → ValueType → Program Empty Host TypedTerm}
  {generateNode : Node Empty → ValueType → Action Empty Host TypedTerm}
  {supply : Supply Empty} {start last : Machine Empty Host} {expression : TypedTerm}

/-- How supplied nodes are generated agrees with the derivations. -/
def Derives (supply : Supply Empty)
    (generateNode : Node Empty → ValueType → Action Empty Host TypedTerm) : Prop :=
  ∀ {node output start expression last}, supply.has (.node node) →
    supply.Covers start.builder.frames →
    generateNode node output start = (.done expression, last) →
    Generates supply start.builder (.node node output) expression last.builder

/-- A value that is run for its expression derives it. -/
theorem Value.derives (derives : Derives supply generateNode) {value : Value Empty}
    {output : ValueType} (supplied : supply.has value) (covers : supply.Covers start.builder.frames)
    (ends : (value.program output).run generateNode start = (.done expression, last)) :
    Generates supply start.builder (.value value output) expression last.builder := by
  cases value with
  | node tree =>
      rw [Value.program, Program.run_generated] at ends
      exact .tree (derives supplied covers ends)
  | literal snippet =>
      obtain ⟨conversion, rfl⟩ := Program.run_ofCoercion.mp ends
      exact .literal supplied conversion

namespace Node

open Program

/-- The program of a float follows its rules. -/
theorem float_derives {id : NodeId} {value : Single} {isConst : Bool} {output : ValueType}
    (supplied : supply.has (.node (.float id value isConst)))
    (ends : (floatProgram id value isConst).run generateNode start = (.done expression, last)) :
    Generates supply start.builder (.raw (.float id value isConst) output) expression last.builder := by
  unfold floatProgram at ends
  rw [bind_eq, run_bind, Action.bind_eq_done] at ends
  obtain ⟨text, middle, ran, ends⟩ := ends
  obtain ⟨written, rfl⟩ := run_literal.mp ran
  cases isConst with
  | true =>
      cases ends
      exact .inlined (Single.isFinite_of_literal written)
  | false =>
      cases ends
      exact .declared supplied written

/-- The program of a reader follows its rules. -/
theorem reader_derives (derives : Derives supply generateNode) {id : NodeId} {key : String}
    {fallback : Node Empty} {output : ValueType}
    (supplied : supply.has (.node (.reader id key fallback)))
    (covers : supply.Covers start.builder.frames)
    (ends : (readerProgram key fallback output).run generateNode start = (.done expression, last)) :
    Generates supply start.builder (.raw (.reader id key fallback) output) expression last.builder := by
  unfold readerProgram at ends
  rw [bind_eq, run_bind, Action.bind_eq_done] at ends
  obtain ⟨found, middle, looked, ends⟩ := ends
  rw [run_find] at looked
  cases looked
  cases found : start.builder.find? key with
  | some value =>
      rw [found] at ends
      have noted : (value.program output).run generateNode
          (start.note (.resolved key value.text)) = (.done expression, last) := ends
      have noteCovers : supply.Covers (start.note (.resolved key value.text)).builder.frames := covers
      have inside := Value.derives derives (covers.found found) noteCovers noted
      exact .override found inside
  | none =>
      rw [found] at ends
      rw [run_generated] at ends
      exact .fallback found (derives (supply.fallback supplied) covers ends)

/-- The coordinate of a sample follows its rules. -/
theorem coordinate_derives (derives : Derives supply generateNode)
    (covers : supply.Covers start.builder.frames)
    (ends : coordinateProgram.run generateNode start = (.done expression, last)) :
    Generates supply start.builder .coordinate expression last.builder := by
  unfold coordinateProgram at ends
  rw [bind_eq, run_bind, Action.bind_eq_done] at ends
  obtain ⟨found, middle, looked, ends⟩ := ends
  rw [run_find] at looked
  cases looked
  cases found : start.builder.find? uvKey with
  | some value =>
      rw [found] at ends
      exact .redirected found (Value.derives derives (covers.found found) covers ends)
  | none =>
      rw [found] at ends
      cases ends
      exact .input found

/-- The roughness of a sample follows its rules. -/
theorem roughness_derives (derives : Derives supply generateNode)
    (covers : supply.Covers start.builder.frames)
    (ends : roughnessProgram.run generateNode start = (.done expression, last)) :
    Generates supply start.builder .roughness expression last.builder := by
  unfold roughnessProgram at ends
  rw [bind_eq, run_bind, Action.bind_eq_done] at ends
  obtain ⟨found, middle, looked, ends⟩ := ends
  rw [run_find] at looked
  cases looked
  cases found : start.builder.find? roughnessKey with
  | some value =>
      rw [found] at ends
      exact .rough found (Value.derives derives (covers.found found) covers ends)
  | none =>
      rw [found] at ends
      cases ends
      exact .smooth found

/-- The program of a sample follows its rule. -/
theorem sample_derives (derives : Derives supply generateNode) {id : NodeId} {texture : String}
    {output : ValueType} (supplied : supply.has (.node (.sample id texture)))
    (covers : supply.Covers start.builder.frames)
    (ends : (sampleProgram texture).run generateNode start = (.done expression, last)) :
    Generates supply start.builder (.raw (.sample id texture) output) expression last.builder := by
  unfold sampleProgram at ends
  rw [bind_eq, run_bind, Action.bind_eq_done] at ends
  obtain ⟨coordinate, first, addressed, ends⟩ := ends
  cases dimensioned : Dimension.ofCoordinate? coordinate.type with
  | none =>
      simp only [dimensioned] at ends
      cases ends
  | some dimension =>
      simp only [dimensioned] at ends
      rw [bind_eq, run_bind, Action.bind_eq_done] at ends
      obtain ⟨roughness, second, blurred, ends⟩ := ends
      have located := coordinate_derives derives covers addressed
      have same : first.builder.frames = start.builder.frames := located.extends.frames
      rw [bind_eq, run_bind, Action.bind_of_done _ (run_config second)] at ends
      rw [bind_eq, run_bind, Action.bind_eq_done] at ends
      obtain ⟨text, middle, ran, ends⟩ := ends
      obtain ⟨written, rfl⟩ := run_literal.mp ran
      rw [bind_eq, run_bind, Action.bind_eq_done] at ends
      obtain ⟨index, later, ran, ends⟩ := ends
      obtain ⟨builder, registered, rfl⟩ := run_registerTexture.mp ran
      cases ends
      exact .sample supplied located dimensioned (roughness_derives derives (same ▸ covers) blurred)
        (Single.isFinite_of_literal written) registered

/-- Both operands are generated at their own types before they get one type. -/
theorem operands_derive (derives : Derives supply generateNode) {left right : Node Empty}
    {operands : TypedTerm × TypedTerm × ValueType} (leftSupplied : supply.has (.node left))
    (rightSupplied : supply.has (.node right)) (covers : supply.Covers start.builder.frames)
    (ends : (operandsProgram left right).run generateNode start = (.done operands, last)) :
    ∃ first middle second,
      Generates supply start.builder (.node left left.type) first middle ∧
      Generates supply middle (.node right right.type) second last.builder ∧
      first.unify second = .ok operands := by
  unfold operandsProgram at ends
  rw [bind_eq, run_bind, Action.bind_eq_done] at ends
  obtain ⟨first, middle, leftDone, ends⟩ := ends
  rw [bind_eq, run_bind, Action.bind_eq_done] at ends
  obtain ⟨second, later, rightDone, ends⟩ := ends
  obtain ⟨unified, rfl⟩ := run_ofCoercion.mp ends
  rw [run_generated] at leftDone rightDone
  have leftDerived := derives leftSupplied covers leftDone
  have same : middle.builder.frames = start.builder.frames := leftDerived.extends.frames
  have rightDerived := derives rightSupplied (same ▸ covers) rightDone
  exact ⟨first, middle.builder, second, leftDerived, rightDerived, unified⟩

/-- The program of a sum or a product follows its rule. -/
theorem binary_derives (derives : Derives supply generateNode) {id : NodeId}
    {operation : BinaryOperation} {left right : Node Empty} {output : ValueType}
    (supplied : supply.has (.node (.binary id operation left right)))
    (covers : supply.Covers start.builder.frames)
    (ends : (binaryProgram operation left right).run generateNode start = (.done expression, last)) :
    Generates supply start.builder (.raw (.binary id operation left right) output) expression
      last.builder := by
  unfold binaryProgram at ends
  rw [bind_eq, run_bind, Action.bind_eq_done] at ends
  obtain ⟨operands, middle, ran, ends⟩ := ends
  obtain ⟨leftSupplied, rightSupplied⟩ := supply.operands supplied
  obtain ⟨first, between, second, leftDone, rightDone, unified⟩ :=
    operands_derive derives leftSupplied rightSupplied covers ran
  cases ends
  exact .binary leftDone rightDone unified

/-- The program of a mix follows its rule. -/
theorem mix_derives (derives : Derives supply generateNode) {id : NodeId}
    {left right factor : Node Empty} {output : ValueType}
    (supplied : supply.has (.node (.mix id left right factor)))
    (covers : supply.Covers start.builder.frames)
    (ends : (mixProgram left right factor).run generateNode start = (.done expression, last)) :
    Generates supply start.builder (.raw (.mix id left right factor) output) expression last.builder := by
  unfold mixProgram at ends
  rw [bind_eq, run_bind, Action.bind_eq_done] at ends
  obtain ⟨⟨firstOperand, secondOperand, type⟩, middle, ran, ends⟩ := ends
  obtain ⟨leftSupplied, rightSupplied, factorSupplied⟩ := supply.mixed supplied
  obtain ⟨first, between, second, leftDone, rightDone, unified⟩ :=
    operands_derive derives leftSupplied rightSupplied covers ran
  dsimp only at ends
  rw [bind_eq, run_bind, Action.bind_eq_done] at ends
  obtain ⟨third, later, factorDone, ends⟩ := ends
  rw [run_generated] at factorDone
  cases ends
  have same := (rightDone.extends.trans leftDone.extends).frames
  exact .mix leftDone rightDone unified (derives factorSupplied (same ▸ covers) factorDone)

/-- The program of every built-in node follows the rules. -/
theorem program_derives (derives : Derives supply generateNode) {node : Node Empty}
    {output : ValueType} (supplied : supply.has (.node node))
    (covers : supply.Covers start.builder.frames)
    (ends : (node.program custom output).run generateNode start = (.done expression, last)) :
    Generates supply start.builder (.raw node output) expression last.builder := by
  cases node with
  | expression id snippet type =>
      cases ends
      exact .expression supplied
  | float id value isConst => exact float_derives supplied ends
  | normal id space =>
      cases ends
      exact .normal
  | context id type overrides child =>
      rw [program, run, Action.bind_eq_done] at ends
      obtain ⟨result, middle, enclosed, ends⟩ := ends
      cases ends
      rw [run_generated] at enclosed
      obtain ⟨outcome, inner⟩ := Prod.mk.inj enclosed
      have inside := covers.cons (supply.override supplied)
      exact inner ▸ .context (derives (supply.child supplied) inside (Prod.ext outcome rfl))
  | reader id key fallback => exact reader_derives derives supplied covers ends
  | sample id texture => exact sample_derives derives supplied covers ends
  | binary id operation left right => exact binary_derives derives supplied covers ends
  | mix id left right factor => exact mix_derives derives supplied covers ends
  | custom id label type content => exact content.elim

end Node

/-- A result is given if it can be converted. -/
theorem Action.finish_eq_done {name : NodeName} {output : ValueType} {result : TypedTerm}
    (ends : finish name output expression start = (.done result, last)) :
    expression.coerce output = .ok result ∧ last = start := by
  cases conversion : expression.coerce output with
  | error cause =>
      simp only [finish, conversion] at ends
      cases ends
  | ok converted =>
      simp only [finish, conversion] at ends
      cases ends
      exact ⟨rfl, rfl⟩

/-- A generation that is done has a derivation, by induction on the fuel. -/
theorem generate_derives (custom : Empty → NodeId → ValueType → Program Empty Host TypedTerm)
    (supply : Supply Empty) (fuel : Nat) : Derives supply (generate custom fuel) := by
  induction fuel with
  | zero =>
      intro node output start expression last supplied covers ends
      cases ends
  | succ fuel ih =>
      intro node output start expression last supplied covers ends
      rw [generate, Action.bind_eq_done] at ends
      obtain ⟨raw, middle, ran, finished⟩ := ends
      obtain ⟨conversion, rfl⟩ := Action.finish_eq_done finished
      exact .converted (Node.program_derives ih supplied covers ran) conversion

/-- A build that is done has a derivation that starts without declarations, and its module declares
what is in the tables at the end. -/
theorem build_derives {fuel : Nat} {root : Node Empty} {output : ValueType} {fragment : Fragment}
    (ends : Action.build (generate custom fuel) root output start = (.done fragment, last)) :
    ∃ after, Generates (.ofParts start.builder.frames root) start.builder.reset (.node root output)
        fragment.expression after ∧
      after.locals = fragment.locals ∧ after.textures = fragment.textures ∧
        fragment.source = Module.source after.config fragment.locals fragment.textures
          fragment.expression := by
  unfold Action.build at ends
  dsimp only at ends
  split at ends
  · rename_i expression middle ran
    cases ends
    refine ⟨middle.builder, ?_, rfl, rfl, rfl⟩
    apply generate_derives custom (.ofParts start.builder.frames root) fuel _ _ ran
    · exact Supply.ofParts_root _ root
    · exact Supply.ofParts_covers _ root
  · cases ends
  · cases ends
  · cases ends

/-- The locals of a module hold numbers of its tree. -/
theorem build_holds {fuel : Nat} {root : Node Empty} {output : ValueType} {fragment : Fragment}
    (ends : Action.build (generate custom fuel) root output start = (.done fragment, last)) :
    ∀ declared ∈ fragment.locals, declared.Holds (.ofParts start.builder.frames root) := by
  obtain ⟨after, generates, locals, _⟩ := build_derives ends
  rw [← locals]
  apply generates.holds
  intro declared member
  cases member

end Soundness

/-! ### A build -/

/-- A sample is mixed with a text by a number that is not constant. -/
def blendTree : Node Empty :=
  .mix 0 (.sample 1 "sky") (.expression 2 "tint(albedo)" .vec4)
    (.float 3 (Single.ofWord 0x3f000000) false)

def blendFragment : Fragment :=
  let level := Term.product (.number (Binary.zero false)) (.number (Single.ofWord 0x41000000))
  let sample := Term.sample "env_tex_sky" "env_samp_sky" (.field "in" "uv") level
  Builder.assemble
    { (Builder.ofConfig .default : Builder Empty) with
      locals := [⟨3, "nf_float_0", .f32, "0.5"⟩], textures := [⟨"sky", .plane⟩] }
    ⟨.vec4, .mix sample (.verbatim "tint(albedo)") (.name "nf_float_0"), false⟩

/-- The blend is built with one local and one texture. -/
theorem blendTree_builds (custom : Empty → NodeId → ValueType → Program Empty Unit TypedTerm) :
    ∃ last, Action.build (generate custom 2) blendTree .vec4 ⟨.ofConfig .default, (), []⟩ =
      (.done blendFragment, last) :=
  ⟨_, rfl⟩

/-- The blend has four nodes. -/
theorem blendTree_parts {value : Value Empty} (part : (Supply.ofParts [] blendTree).has value) :
    value ∈ [.node blendTree, .node (.sample 1 "sky"), .node (.expression 2 "tint(albedo)" .vec4),
      .node (.float 3 (Single.ofWord 0x3f000000) false)] := by
  simpa [Supply.ofParts, Frames.partsWith, blendTree, Node.parts] using part

/-- The blend brings one text. -/
theorem blendTree_snippet {value : Value Empty} {text : String}
    (part : (Supply.ofParts [] blendTree).has value) (brought : value.snippet? = some text) :
    text = "tint(albedo)" := by
  have known := blendTree_parts part
  simp only [List.mem_cons, List.not_mem_nil, or_false] at known
  rcases known with rfl | rfl | rfl | rfl
  · cases brought
  · cases brought
  · exact (Option.some.inj brought).symm
  · cases brought

end ShadeTree
