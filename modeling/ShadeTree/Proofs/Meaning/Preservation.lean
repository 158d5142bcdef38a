import ShadeTree.Proofs.Generation.Soundness
import ShadeTree.Proofs.Meaning.Term

/-!
Compilation preserves meaning.

What a builder gives for a demand is read as an expression whose value is the meaning of the demand.
The proof goes along the derivation: reader and reference go through the same frames, and a name of a
local stands for the number of the node that declared it.
-/

namespace ShadeTree

open Number Reading

variable {V : Type} {alphabet : Alphabet} {environment : Environment V} {atom : String → V}

/-- The text is read as an expression other than a binary operation: a name, a literal, a member, a
call or something in parentheses, with signs in front of it at most. -/
def Alphabet.IsOperand (alphabet : Alphabet) (text : String) : Prop :=
  ∃ expression, alphabet.read? text = some expression ∧ expression.isBinary = false

/-- All texts that are supplied are operands. -/
def Supply.Readable (supply : Supply Empty) (alphabet : Alphabet) : Prop :=
  ∀ value, supply.has value → ∀ text, value.snippet? = some text → alphabet.IsOperand text

/-- An environment that realizes later declarations realizes the earlier ones. -/
theorem Environment.Realizes.of_extends {builder later : Builder Empty}
    (realized : environment.Realizes alphabet later.locals later.textures)
    (grown : later.Extends builder) : environment.Realizes alphabet builder.locals builder.textures where
  locals declared member := realized.locals declared (grown.locals.subset member)
  textures binding member := realized.textures binding (grown.textures.subset member)

/-- The name of a local stands for the number of the node that it belongs to. -/
theorem LocalVariable.Holds.means {supply : Supply Empty} {declared : LocalVariable} {value : Single}
    (holds : declared.Holds supply) (identified : supply.Identified)
    (supplied : supply.has (.node (.float declared.owner value false)))
    (known : environment.meaning? alphabet declared.initializer =
      some (environment.leaf declared.name)) :
    (⟨.f32, .name declared.name, false⟩ : TypedTerm).Means alphabet environment
      ⟨.f32, environment.number value⟩ := by
  obtain ⟨other, suppliedOther, written⟩ := holds.number
  obtain ⟨index, name⟩ := holds.name
  have word : IsWord declared.name := name ▸ Builder.isWord_localName .f32 index
  have same : other = value := by
    have equal := identified _ _ suppliedOther supplied rfl
    cases equal
    rfl
  rw [Environment.meaning_literal written, same] at known
  refine ⟨_, ⟨.name word, rfl⟩, ?_⟩
  rw [Environment.eval, ← Option.some.inj known]

/-- Only vectors of two and three lanes are texture coordinates. -/
theorem Dimension.ofCoordinate_some {type : ValueType} {dimension : Dimension}
    (found : Dimension.ofCoordinate? type = some dimension) : type = .vec2 ∨ type = .vec3 := by
  cases type with
  | vec2 => exact .inl rfl
  | vec3 => exact .inr rfl
  | f32 | vec4 | mat4 => cases found

/-- Other values of names leave those alone that the supply and the configuration bring. -/
structure Environment.Keeps (environment : Environment V) (alphabet : Alphabet)
    (supply : Supply Empty) (config : Config) (atom : String → V) : Prop where
  texts : ∀ value, supply.has value → ∀ text, value.snippet? = some text →
    ∀ reading, alphabet.read? text = some reading →
      ∀ name, .atom name ∈ reading.parts → atom name = environment.atom name
  fields : ∀ member, atom (config.inputName ++ "." ++ member) =
    environment.atom (config.inputName ++ "." ++ member)
  viewMatrix : atom config.viewMatrix = environment.atom config.viewMatrix

/-- An environment keeps its own values. -/
theorem Environment.Keeps.refl (environment : Environment V) (alphabet : Alphabet)
    (supply : Supply Empty) (config : Config) :
    environment.Keeps alphabet supply config environment.atom where
  texts _ _ _ _ _ _ _ _ := rfl
  fields _ := rfl
  viewMatrix := rfl

/-- A supplied text has one value in both environments. -/
theorem Environment.Keeps.meaning {supply : Supply Empty} {config : Config} {value : Value Empty}
    {text : String} {reading : Expression}
    (keeps : environment.Keeps alphabet supply config atom) (supplied : supply.has value)
    (brought : value.snippet? = some text) (read : alphabet.read? text = some reading) :
    environment.meaning? alphabet text = some ((environment.revalued atom).eval reading) := by
  rw [Environment.meaning?, read, Option.map_some,
    Environment.eval_revalued (keeps.texts _ supplied _ brought _ read)]

/-- What is generated has the meaning of the demand, by induction on the derivation. The expression
is read with the values that the names have in the module, the demand with those outside. -/
theorem Generates.means {supply : Supply Empty} {builder after : Builder Empty} {demand : Demand}
    {expression : TypedTerm} (generates : Generates supply builder demand expression after)
    (readable : supply.Readable alphabet) (identified : supply.Identified)
    (worded : builder.config.Worded) (keeps : environment.Keeps alphabet supply builder.config atom)
    (held : ∀ declared ∈ builder.locals, declared.Holds supply)
    (realized : (environment.revalued atom).Realizes alphabet after.locals after.textures) :
    ∃ meaning, expression.Means alphabet (environment.revalued atom) meaning ∧
      Denotes alphabet environment builder.config builder.frames demand meaning := by
  induction generates with
  | @expression builder id snippet type output supplied =>
      obtain ⟨reading, read, simple⟩ := readable _ supplied snippet rfl
      exact ⟨_, ⟨reading, ⟨.verbatim read, simple⟩, rfl⟩,
        .expression (keeps.meaning supplied rfl read)⟩
  | @inlined builder id value output finite =>
      have known : (environment.revalued atom).eval (.ofNumeral (value.numeral .literal)) =
          environment.number value := Environment.eval_literal finite
      exact ⟨_, ⟨_, .number value, by rw [known]⟩, .float⟩
  | @declared builder id value output text supplied written =>
      have declares : Generates supply builder (.raw (.float id value false) output) _ _ :=
        .declared supplied written
      obtain ⟨declared, member, rfl, named⟩ := builder.declareLocal_member id .f32 text
      have holds := declares.holds held declared member
      have means := holds.means identified supplied (realized.locals declared member)
      rw [← named]
      exact ⟨_, means, .float⟩
  | @normal builder id space output =>
      refine ⟨_, Config.means_normal worded space false, ?_⟩
      rw [Environment.normal_revalued keeps.fields keeps.viewMatrix]
      exact .normal
  | context inside ih =>
      obtain ⟨meaning, means, denotes⟩ := ih worded keeps held realized
      exact ⟨meaning, means, .context denotes⟩
  | override found inside ih =>
      obtain ⟨meaning, means, denotes⟩ := ih worded keeps held realized
      exact ⟨meaning, means, .override found denotes⟩
  | fallback missing inside ih =>
      obtain ⟨meaning, means, denotes⟩ := ih worded keeps held realized
      exact ⟨meaning, means, .fallback missing denotes⟩
  | sample supplied addressed dimensioned blurred finite registered first second =>
      have kept := addressed.extends
      have later := blurred.extends
      have registers := Builder.registerTexture_extends registered
      obtain ⟨coordinate, coordinateMeans, coordinateDenotes⟩ :=
        first worded keeps held (realized.of_extends (registers.trans later))
      obtain ⟨roughness, roughnessMeans, roughnessDenotes⟩ :=
        second (kept.config ▸ worded) (kept.config ▸ keeps) (addressed.holds held) (realized.of_extends registers)
      obtain ⟨textureValue, samplerValue⟩ :=
        realized.textures _ (Builder.registerTexture_member registered)
      rw [kept.config, kept.frames] at roughnessDenotes
      have means := TypedTerm.means_sample coordinateMeans roughnessMeans finite textureValue
        samplerValue
      have addressing := Dimension.ofCoordinate_some dimensioned
      rw [← coordinateMeans.type_eq] at addressing
      refine ⟨_, means, ?_⟩
      rw [later.config, kept.config]
      exact .sample coordinateDenotes addressing roughnessDenotes
  | binary leftDone rightDone unified first second =>
      have kept := leftDone.extends
      obtain ⟨left, leftMeans, leftDenotes⟩ :=
        first worded keeps held (realized.of_extends rightDone.extends)
      obtain ⟨right, rightMeans, rightDenotes⟩ :=
        second (kept.config ▸ worded) (kept.config ▸ keeps) (leftDone.holds held) realized
      rw [kept.config, kept.frames] at rightDenotes
      obtain ⟨leftValue, rightValue, promoted, firstMeans, secondMeans⟩ :=
        leftMeans.unified rightMeans unified
      rw [Environment.promote_revalued] at promoted
      exact ⟨_, TypedTerm.means_operation _ firstMeans secondMeans,
        .binary leftDenotes rightDenotes promoted⟩
  | mix leftDone rightDone unified factorDone first second third =>
      have kept := leftDone.extends
      have later := rightDone.extends.trans kept
      have held₁ := leftDone.holds held
      have last := factorDone.extends
      obtain ⟨left, leftMeans, leftDenotes⟩ :=
        first worded keeps held (realized.of_extends (last.trans rightDone.extends))
      obtain ⟨right, rightMeans, rightDenotes⟩ :=
        second (kept.config ▸ worded) (kept.config ▸ keeps) held₁ (realized.of_extends last)
      obtain ⟨factor, factorMeans, factorDenotes⟩ :=
        third (later.config ▸ worded) (later.config ▸ keeps) (rightDone.holds held₁) realized
      rw [kept.config, kept.frames] at rightDenotes
      rw [later.config, later.frames] at factorDenotes
      obtain ⟨leftValue, rightValue, promoted, firstMeans, secondMeans⟩ :=
        leftMeans.unified rightMeans unified
      rw [Environment.promote_revalued] at promoted
      exact ⟨_, TypedTerm.means_mix firstMeans secondMeans factorMeans,
        .mix leftDenotes rightDenotes promoted factorDenotes⟩
  | converted inside conversion ih =>
      obtain ⟨meaning, means, denotes⟩ := ih worded keeps held realized
      obtain ⟨value, converted, result⟩ :=
        means.converted (TypedTerm.coerce_converts conversion)
      rw [Environment.convert_revalued] at converted
      exact ⟨_, result, .converted denotes converted⟩
  | tree inside ih =>
      obtain ⟨meaning, means, denotes⟩ := ih worded keeps held realized
      exact ⟨meaning, means, .tree denotes⟩
  | @literal builder snippet output expression supplied conversion =>
      obtain ⟨reading, read, simple⟩ := readable _ supplied snippet.text rfl
      have means : snippet.typed.Means alphabet (environment.revalued atom)
          ⟨snippet.type, (environment.revalued atom).eval reading⟩ :=
        ⟨reading, ⟨.verbatim read, simple⟩, rfl⟩
      obtain ⟨value, converted, result⟩ :=
        means.converted (TypedTerm.coerce_converts conversion)
      rw [Environment.convert_revalued] at converted
      exact ⟨_, result, .literal (keeps.meaning supplied rfl read) converted⟩
  | redirected found inside ih =>
      obtain ⟨meaning, means, denotes⟩ := ih worded keeps held realized
      exact ⟨meaning, means, .redirected found denotes⟩
  | input missing =>
      obtain ⟨reads, value⟩ :=
        Config.means_field alphabet (environment.revalued atom) worded.inputName worded.uvField
      rw [Environment.field_revalued keeps.fields] at value
      exact ⟨_, ⟨_, reads, by rw [value]; rfl⟩, .input missing⟩
  | rough found inside ih =>
      obtain ⟨meaning, means, denotes⟩ := ih worded keeps held realized
      exact ⟨meaning, means, .rough found denotes⟩
  | smooth missing =>
      have finite : (Binary.zero false : Single).isFinite := by decide
      exact ⟨_, ⟨_, .number _, by rw [Environment.eval_literal finite]; rfl⟩, .smooth missing⟩

/-- The meaning of a root outside the module is that of the text of its expression inside, if the
declarations hold inside and no other names have other values. -/
theorem build_means {Host : Type} {custom : Empty → NodeId → ValueType → Program Empty Host TypedTerm}
    {fuel : Nat} {root : Node Empty} {output : ValueType} {start last : Machine Empty Host}
    {fragment : Fragment} (accepted : start.builder.config.validate = .ok ())
    (identified : (Supply.ofParts start.builder.frames root).Identified)
    (readable : (Supply.ofParts start.builder.frames root).Readable alphabet)
    (ends : Action.build (generate custom fuel) root output start = (.done fragment, last))
    (keeps : environment.Keeps alphabet (.ofParts start.builder.frames root) start.builder.config atom)
    (realized : (environment.revalued atom).Realizes alphabet fragment.locals fragment.textures) :
    fragment.expression.type = output ∧
      ∃ value, (environment.revalued atom).meaning? alphabet fragment.expression.text = some value ∧
        ∀ meaning, Denotes alphabet environment start.builder.config start.builder.frames
          (.node root output) meaning ↔ meaning = ⟨output, value⟩ := by
  obtain ⟨after, generates, locals, textures, _⟩ := build_derives ends
  rw [← locals, ← textures] at realized
  have worded := Config.worded accepted
  obtain ⟨meaning, means, denotes⟩ :=
    generates.means readable identified worded keeps (fun _ member => by cases member) realized
  have type := generates.type_eq
  obtain ⟨reading, reads, rfl⟩ := means
  rw [type] at denotes
  refine ⟨type, (environment.revalued atom).eval reading, ?_, fun other => ⟨fun also => ?_, ?_⟩⟩
  · rw [Environment.meaning?, TypedTerm.text, reads.read, Option.map_some]
  · exact also.unique denotes
  · rintro rfl
    exact denotes

/-- A build preserves meaning: the text of its expression, read on its own and with the declarations of
the module, has exactly the meaning of the root. -/
theorem build_preserves_meaning {Host : Type} (alphabet : Alphabet) (environment : Environment V)
    (custom : Empty → NodeId → ValueType → Program Empty Host TypedTerm) (fuel : Nat)
    (root : Node Empty) (output : ValueType) (start last : Machine Empty Host) (fragment : Fragment)
    (accepted : start.builder.config.validate = .ok ())
    (identified : (Supply.ofParts start.builder.frames root).Identified)
    (readable : (Supply.ofParts start.builder.frames root).Readable alphabet)
    (ends : Action.build (generate custom fuel) root output start = (.done fragment, last))
    (realized : environment.Realizes alphabet fragment.locals fragment.textures) :
    fragment.expression.type = output ∧
      ∃ value, environment.meaning? alphabet fragment.expression.text = some value ∧
        ∀ meaning, Denotes alphabet environment start.builder.config start.builder.frames
          (.node root output) meaning ↔ meaning = ⟨output, value⟩ :=
  build_means accepted identified readable ends (.refl environment ..) realized

/-- Besides numbers, only the local of the blend has a value. -/
def blendEnvironment : Environment (Option Single) where
  atom text := if text = "nf_float_0" then some (Single.ofWord 0x3f000000) else none
  number := some
  unary
    | .minus, value => value.map Binary.negated
    | _, value => value
  binary _ _ _ := none
  member _ _ := none
  index _ _ := none
  call _ _ := none
  texture _ := none
  sampler _ := none
  negated _ := rfl

/-- The nodes of the blend have different ids. -/
theorem blendTree_identified : (Supply.ofParts [] blendTree).Identified := by
  intro left right leftPart rightPart equal
  have leftCases := blendTree_parts leftPart
  have rightCases := blendTree_parts rightPart
  simp only [List.mem_cons, Value.node.injEq, List.not_mem_nil, or_false] at leftCases rightCases
  rcases leftCases with rfl | rfl | rfl | rfl <;> rcases rightCases with rfl | rfl | rfl | rfl <;>
    first | rfl | cases equal

/-- Every snippet of the blend is read as an expression. -/
theorem blendTree_readable :
    (Supply.ofParts [] blendTree).Readable ⟨Identifier.isWordCharacter, fun _ _ => rfl⟩ := by
  intro value part text brought
  rw [blendTree_snippet part brought]
  exact ⟨.call "tint" [.atom "albedo"], rfl, rfl⟩

theorem blend_preserves_meaning :
    let alphabet : Alphabet := ⟨Identifier.isWordCharacter, fun _ _ => rfl⟩
    Config.default.validate = .ok () ∧ (Supply.ofParts [] blendTree).Identified ∧
      (Supply.ofParts [] blendTree).Readable alphabet ∧
      blendEnvironment.Realizes alphabet blendFragment.locals blendFragment.textures ∧
      ∃ value, blendEnvironment.meaning? alphabet blendFragment.expression.text = some value ∧
        ∀ meaning, Denotes alphabet blendEnvironment .default [] (.node blendTree .vec4) meaning ↔
          meaning = ⟨.vec4, value⟩ := by
  intro alphabet
  have accepted : Config.default.validate = .ok () := rfl
  have realized : blendEnvironment.Realizes alphabet blendFragment.locals
      blendFragment.textures := by
    constructor
    · intro declared member
      rw [List.mem_singleton.mp member]
      have written : (Single.ofWord 0x3f000000).literal? = some "0.5" := rfl
      rw [Environment.meaning_literal written]
      rfl
    · intro binding member
      rw [List.mem_singleton.mp member]
      exact ⟨rfl, rfl⟩
  obtain ⟨last, ends⟩ := blendTree_builds nofun
  exact ⟨accepted, blendTree_identified, blendTree_readable, realized,
    (build_preserves_meaning alphabet blendEnvironment nofun 2 blendTree .vec4 _ last blendFragment
      accepted blendTree_identified blendTree_readable ends realized).2⟩

end ShadeTree
