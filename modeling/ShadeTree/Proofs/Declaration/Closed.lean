import ShadeTree.Proofs.Declaration.Names
import ShadeTree.Proofs.Generation.Soundness

/-!
Modules are closed, and nothing is declared in vain.

The reserved words of an expression are exactly the names of its locals, textures and samplers, and
the other names that it refers to are declared by the struct or the parameters of the module.
-/

namespace ShadeTree

open Reading

variable {alphabet : Alphabet} {supply : Supply Empty}

/-- What an expression refers to is declared. -/
structure Fragment.Closed (alphabet : Alphabet) (supply : Supply Empty) (config : Config)
    (fragment : Fragment) : Prop where
  locals : ∀ word ∈ alphabet.words fragment.expression.text, begins "nf_float_" word →
    ∃ entry ∈ fragment.locals, word = entry.name
  textures : ∀ word ∈ alphabet.words fragment.expression.text, begins "env_tex_" word →
    ∃ binding ∈ fragment.textures, word = Identifier.textureVariable binding.name
  samplers : ∀ word ∈ alphabet.words fragment.expression.text, begins "env_samp_" word →
    ∃ binding ∈ fragment.textures, word = Identifier.samplerVariable binding.name
  typed : fragment.expression.term.HasType supply (fragment.declarations config)
    fragment.expression.type

/-- What is declared for an expression occurs in it. -/
structure Fragment.Used (alphabet : Alphabet) (fragment : Fragment) : Prop where
  locals : ∀ entry ∈ fragment.locals, entry.name ∈ alphabet.words fragment.expression.text
  textures : ∀ binding ∈ fragment.textures,
    Identifier.textureVariable binding.name ∈ alphabet.words fragment.expression.text
  samplers : ∀ binding ∈ fragment.textures,
    Identifier.samplerVariable binding.name ∈ alphabet.words fragment.expression.text

/-- The struct and the parameters of a module declare the names that its expression takes from the
configuration. -/
structure Module.Interface (config : Config) : Prop where
  input : config.inputName ++ ": " ++ config.inputStruct ∈ parameters config
  members : ∀ member ∈ config.members, fieldLine member.1 member.2 ∈ inputLines config
  params : ∀ param ∈ config.params, param.name ++ ": " ++ param.type.wgsl ∈ parameters config
  viewMatrix : ⟨config.viewMatrix, .mat4⟩ ∈ config.params
  roughness : ⟨roughnessFactor, .f32⟩ ∈ config.params

/-- An accepted configuration declares what a module takes from it. -/
theorem Config.interface {config : Config} (accepted : config.validate = .ok ()) :
    Module.Interface config where
  input := List.mem_cons_self ..
  members := by simp [members, Module.inputLines]
  params param known := List.mem_cons_of_mem _ (List.mem_map_of_mem known)
  viewMatrix := viewMatrix_mem accepted
  roughness := roughnessFactor_mem accepted

/-- A typed expression whose reserved words are declared is closed. -/
theorem Fragment.closed {config : Config} {fragment : Fragment}
    (held : ∀ entry ∈ fragment.locals, entry.Holds supply)
    (typed : fragment.expression.term.HasType supply (fragment.declarations config)
      fragment.expression.type)
    (declares : ∀ word ∈ alphabet.words fragment.expression.text, isReserved word →
      word ∈ (fragment.declarations config).names) : fragment.Closed alphabet supply config := by
  refine ⟨?_, ?_, ?_, typed⟩
  · intro word member starts
    have named := declares word member (by simp [isReserved, starts])
    obtain ⟨found, _⟩ | ⟨_, other, _⟩ | ⟨_, other, _⟩ := Declarations.mem_names_cases named held
    · exact found
    · simp [other] at starts
    · simp [other] at starts
  · intro word member starts
    have named := declares word member (by simp [isReserved, starts])
    obtain ⟨_, other, _⟩ | ⟨found, _⟩ | ⟨_, _, other⟩ := Declarations.mem_names_cases named held
    · simp [other] at starts
    · exact found
    · simp [other] at starts
  · intro word member starts
    have named := declares word member (by simp [isReserved, starts])
    obtain ⟨_, _, other⟩ | ⟨_, _, other⟩ | ⟨found, _⟩ := Declarations.mem_names_cases named held
    · simp [other] at starts
    · simp [other] at starts
    · exact found

/-- A fragment uses what it declares if the declared names are words of its expression. -/
theorem Fragment.used (config : Config) {fragment : Fragment}
    (uses : ∀ name ∈ (fragment.declarations config).names,
      name ∈ alphabet.words fragment.expression.text) : fragment.Used alphabet where
  locals entry member := uses _ (Declarations.mem_names.mpr (.inl ⟨entry, member, rfl⟩))
  textures binding member :=
    uses _ (Declarations.mem_names.mpr (.inr ⟨binding, member, .inl rfl⟩))
  samplers binding member :=
    uses _ (Declarations.mem_names.mpr (.inr ⟨binding, member, .inr rfl⟩))

/-- A build gives a closed module that declares nothing in vain. -/
theorem build_closed {Host : Type} (alphabet : Alphabet)
    (custom : Empty → NodeId → ValueType → Program Empty Host TypedTerm) (fuel : Nat)
    (root : Node Empty) (output : ValueType) (start last : Machine Empty Host) (fragment : Fragment)
    (accepted : start.builder.config.validate = .ok ())
    (texts : ∀ value, (Supply.ofParts start.builder.frames root).has value →
      ∀ text, value.snippet? = some text → alphabet.IsFree text)
    (names : ∀ name ∈ start.builder.config.names, alphabet.IsFree name)
    (ends : Action.build (generate custom fuel) root output start = (.done fragment, last)) :
    fragment.Closed alphabet (.ofParts start.builder.frames root) start.builder.config ∧
      fragment.Used alphabet ∧ Module.Interface start.builder.config ∧
        fragment.source = Module.source start.builder.config fragment.locals fragment.textures
          fragment.expression := by
  obtain ⟨after, generates, locals, textures, source⟩ := build_derives ends
  have config : after.config = start.builder.config := generates.extends.config
  have declarations : after.declarations = fragment.declarations start.builder.config := by
    rw [Fragment.declarations, Builder.declarations, locals, textures, config]
  have held := build_holds ends
  have typed := generates.typed (Config.viewMatrix_mem accepted) fun _ member => by cases member
  have uses := generates.uses alphabet
  rw [declarations] at uses
  rw [TypedTerm.IsTyped, declarations] at typed
  have worded : (fragment.declarations start.builder.config).Worded :=
    Declarations.worded accepted held
  have spelled : alphabet.words fragment.expression.text = _ := typed.words_text worded
  refine ⟨Fragment.closed held typed ?_, Fragment.used start.builder.config ?_,
    Config.interface accepted, config ▸ source⟩
  · intro word member reserved
    rw [spelled] at member
    exact typed.declares ⟨texts, names⟩ worded member reserved
  · intro name member
    rw [spelled]
    obtain none | word := uses name member
    · cases none
    · exact word

/-- The module of the blend is closed and declares nothing in vain. -/
theorem blend_closed :
    let alphabet : Alphabet := ⟨Identifier.isWordCharacter, fun _ _ => rfl⟩
    Config.default.validate = .ok () ∧
      (∀ value, (Supply.ofParts [] blendTree).has value →
        ∀ text, value.snippet? = some text → alphabet.IsFree text) ∧
      (∀ name ∈ Config.default.names, alphabet.IsFree name) ∧
      blendFragment.Closed alphabet (.ofParts [] blendTree) .default ∧
        blendFragment.Used alphabet := by
  intro alphabet
  have accepted : Config.default.validate = .ok () := rfl
  have texts : ∀ value, (Supply.ofParts [] blendTree).has value →
      ∀ text, value.snippet? = some text → alphabet.IsFree text := by
    intro value part text brought word member
    rw [blendTree_snippet part brought] at member
    have plain : (alphabet.words "tint(albedo)").all fun word => !isReserved word := rfl
    simpa using List.all_eq_true.mp plain word member
  have names : ∀ name ∈ Config.default.names, alphabet.IsFree name := by
    intro name known word member
    have plain : Config.default.names.all fun name =>
        (alphabet.words name).all fun word => !isReserved word := rfl
    simpa using List.all_eq_true.mp (List.all_eq_true.mp plain name known) word member
  obtain ⟨last, ends⟩ := blendTree_builds nofun
  obtain ⟨closed, used, _⟩ := build_closed alphabet nofun 2 blendTree .vec4 _ last blendFragment
    accepted texts names ends
  exact ⟨accepted, texts, names, closed, used⟩

end ShadeTree
