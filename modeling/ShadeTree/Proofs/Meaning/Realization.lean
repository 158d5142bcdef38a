import ShadeTree.Proofs.Declaration.Names
import ShadeTree.Proofs.Meaning.Preservation
import Mathlib.Data.List.Nodup

/-!
Environments in which the declarations of a module hold.

Every environment becomes one by giving values to the names that the module declares, as long as no
two of its textures have one variable. Everything else keeps its value, so that a tree means in the
environment itself what the text of its module means in the one with the declarations.
-/

namespace ShadeTree

open Number Reading

variable {V : Type}

/-! ### Names apart -/

/-- A text that begins with a letter is no numeral. -/
theorem Number.Single.ofText_letter {text : String} {head : Char} {rest : List Char}
    (spelled : text.toList = head :: rest) (letter : head.isDigit = false) (point : head ≠ '.') :
    ofText? text = none := by
  have read : Numeral.ofCharacters? text.toList =
      (Numeral.exponentOf? (head :: rest)).map (⟨false, [], [], ·⟩) := by
    unfold Numeral.ofCharacters?
    rw [spelled, List.takeWhile_cons_of_neg (by simp [letter]),
      List.dropWhile_cons_of_neg (by simp [letter])]
    split
    · rename_i equal
      exact absurd (List.cons.inj equal).1 point
    · rfl
  rw [ofText?, read]
  cases Numeral.exponentOf? (head :: rest) with
  | none => rfl
  | some exponent => rfl

/-- The name of a local tells its type and its number. -/
theorem Builder.localName_inj {type other : ValueType} {first second : Nat}
    (same : localName type first = localName other second) : type = other ∧ first = second := by
  have types : type = other := by
    have spelled := congrArg String.toList same
    simp only [localName, String.toList_append] at spelled
    cases type <;> cases other <;> first | rfl | simp [localPrefix] at spelled
  subst types
  refine ⟨rfl, ?_⟩
  unfold localName at same
  have digits := congrArg String.toList ((String.append_right_inj _).mp same)
  rw [Nat.toString_eq_repr, Nat.toString_eq_repr, Nat.toList_repr, Nat.toList_repr] at digits
  have values := congrArg Number.digitsValue digits
  have first := digitsValue_decimalDigits first
  have second := digitsValue_decimalDigits second
  unfold decimalDigits at first second
  rw [← first, ← second, values]

/-- Locals with numbers have names of their own. -/
theorem Builder.Numbered.nodup {locals : List LocalVariable} (numbered : Numbered locals) :
    (locals.map LocalVariable.name).Nodup := by
  rw [List.nodup_iff_getElem?_ne_getElem?]
  intro first second before inside
  rw [List.length_map] at inside
  have named (index : Nat) (known : index < locals.length) :
      (locals.map LocalVariable.name)[index]? = some (localName locals[index].type index) := by
    have found := List.getElem?_eq_getElem known
    rw [List.getElem?_map, found, Option.map_some, numbered index _ found]
  rw [named first (before.trans inside), named second inside, Ne, Option.some.injEq]
  intro same
  exact absurd (localName_inj same).2 before.ne

/-- The first entry with the key of a listed element is that element, if no other has its key. -/
theorem find_key {α : Type} {list : List α} {key : α → String} {element : α}
    (member : element ∈ list)
    (unique : ∀ other ∈ list, key other = key element → other = element) :
    (list.find? fun other => key other == key element) = some element := by
  cases found : list.find? fun other => key other == key element with
  | none => simpa using List.find?_eq_none.mp found element member
  | some other =>
      have same : key other = key element := by simpa using List.find?_some found
      rw [unique other (List.mem_of_find?_eq_some found) same]

/-- A key that no entry has finds nothing. -/
theorem find_key_none {α : Type} {list : List α} {key : α → String} {text : String}
    (free : ∀ other ∈ list, key other ≠ text) :
    (list.find? fun other => key other == text) = none := by
  rw [List.find?_eq_none]
  intro other member same
  exact free other member (beq_iff_eq.mp same)

/-- Texts with different beginnings are different. -/
theorem Identifier.append_ne_append {front other : String} (first second : String)
    (apart : ∀ rest : List Char, front.toList.isPrefixOf (other.toList ++ rest) = false) :
    front ++ first ≠ other ++ second := by
  intro same
  have starts : begins front (front ++ first) := begins_append ..
  rw [same, begins_append_ne second apart] at starts
  cases starts

/-- No texture variable is a sampler variable. -/
theorem Identifier.textureVariable_ne_samplerVariable (first second : String) :
    textureVariable first ≠ samplerVariable second :=
  append_ne_append _ _ fun _ => rfl

namespace Environment

/-- The environment in which the locals have the values of their initializers, and the variables of
the bindings are textures and samplers. -/
def declaring (environment : Environment V) (alphabet : Alphabet) (locals : List LocalVariable)
    (textures : List TextureBinding) : Environment V :=
  { environment with
    atom := fun text =>
      match locals.find? fun entry => entry.name == text with
      | some entry =>
        (environment.meaning? alphabet entry.initializer).getD (environment.atom text)
      | none =>
        match textures.find? fun binding => Identifier.textureVariable binding.name == text with
        | some binding => environment.texture binding.name
        | none =>
          match textures.find? fun binding => Identifier.samplerVariable binding.name == text with
          | some binding => environment.sampler binding.name
          | none => environment.atom text }

variable {environment : Environment V} {alphabet : Alphabet} {locals : List LocalVariable}
  {textures : List TextureBinding}

/-- A local means what its initializer does. -/
theorem declaring_atom_local {declared : LocalVariable} (member : declared ∈ locals)
    (unique : ∀ entry ∈ locals, entry.name = declared.name → entry = declared) :
    (environment.declaring alphabet locals textures).atom declared.name =
      (environment.meaning? alphabet declared.initializer).getD (environment.atom declared.name) := by
  have found := find_key member unique
  simp only [declaring, found]

/-- A texture variable means its texture when no other texture is sanitized to its name. -/
theorem declaring_atom_texture {binding : TextureBinding} (member : binding ∈ textures)
    (free : ∀ entry ∈ locals, entry.name ≠ Identifier.textureVariable binding.name)
    (unique : ∀ other ∈ textures, Identifier.sanitize other.name = Identifier.sanitize binding.name →
      other = binding) :
    (environment.declaring alphabet locals textures).atom (Identifier.textureVariable binding.name) =
      environment.texture binding.name := by
  have skipped := find_key_none free
  have found : (textures.find? fun other => Identifier.textureVariable other.name ==
      Identifier.textureVariable binding.name) = some binding :=
    find_key member fun other known same =>
      unique other known ((String.append_right_inj _).mp same)
  simp only [declaring, skipped, found]

/-- A sampler variable means its sampler when no other texture is sanitized to its name. -/
theorem declaring_atom_sampler {binding : TextureBinding} (member : binding ∈ textures)
    (free : ∀ entry ∈ locals, entry.name ≠ Identifier.samplerVariable binding.name)
    (unique : ∀ other ∈ textures, Identifier.sanitize other.name = Identifier.sanitize binding.name →
      other = binding) :
    (environment.declaring alphabet locals textures).atom (Identifier.samplerVariable binding.name) =
      environment.sampler binding.name := by
  have skipped := find_key_none free
  have apart : (textures.find? fun other => Identifier.textureVariable other.name ==
      Identifier.samplerVariable binding.name) = none :=
    find_key_none fun _ _ => Identifier.textureVariable_ne_samplerVariable _ _
  have found : (textures.find? fun other => Identifier.samplerVariable other.name ==
      Identifier.samplerVariable binding.name) = some binding :=
    find_key member fun other known same =>
      unique other known ((String.append_right_inj _).mp same)
  simp only [declaring, skipped, apart, found]

/-- Names that are not declared keep their values. -/
theorem declaring_atom_of_not_mem {declared : Declarations} {text : String}
    (absent : text ∉ declared.names) :
    (environment.declaring alphabet declared.locals declared.textures).atom text =
      environment.atom text := by
  rw [Declarations.mem_names] at absent
  push Not at absent
  obtain ⟨locals, textures⟩ := absent
  have first := find_key_none locals
  have second := find_key_none fun binding known => (textures binding known).1.symm
  have third := find_key_none fun binding known => (textures binding known).2.symm
  simp only [declaring, first, second, third]

/-- A text that starts like no number is an atom. -/
theorem leaf_of_letter {head : Char} {rest : List Char} (front back : String)
    (spelled : front.toList = head :: rest) (letter : head.isDigit = false) (point : head ≠ '.') :
    environment.leaf (front ++ back) = environment.atom (front ++ back) := by
  have whole : (front ++ back).toList = head :: (rest ++ back.toList) := by
    rw [String.toList_append, spelled, List.cons_append]
  rw [leaf, Single.ofText_letter whole letter point]

/-- No local has the name of a texture or sampler variable. -/
theorem name_ne_variable {supply : Supply Empty} {declared : LocalVariable}
    (held : declared.Holds supply) (name : String) :
    declared.name ≠ Identifier.textureVariable name ∧
      declared.name ≠ Identifier.samplerVariable name := by
  obtain ⟨index, named⟩ := held.name
  rw [named]
  constructor
  · exact Identifier.append_ne_append _ _ fun _ => rfl
  · exact Identifier.append_ne_append _ _ fun _ => rfl

/-- The declarations of a module hold in the environment that declares them. -/
theorem declaring_realizes {supply : Supply Empty}
    (held : ∀ declared ∈ locals, declared.Holds supply) (numbered : Builder.Numbered locals)
    (distinct : (textures.map fun binding => Identifier.sanitize binding.name).Nodup) :
    (environment.declaring alphabet locals textures).Realizes alphabet locals textures := by
  refine ⟨fun declared member => ?_, fun binding member => ?_⟩
  · obtain ⟨value, _, written⟩ := (held declared member).number
    obtain ⟨index, named⟩ := (held declared member).name
    have leaf : (environment.declaring alphabet locals textures).leaf declared.name =
        (environment.declaring alphabet locals textures).atom declared.name := by
      rw [named]
      exact leaf_of_letter "nf_float_" _ rfl rfl (by decide)
    have known : (environment.declaring alphabet locals textures).atom declared.name = _ :=
      declaring_atom_local member fun _ found same =>
        List.inj_on_of_nodup_map numbered.nodup found member same
    rw [leaf, known, meaning_literal written, meaning_literal written]
    rfl
  · have unique : ∀ other ∈ textures,
        Identifier.sanitize other.name = Identifier.sanitize binding.name → other = binding :=
      fun other known same => List.inj_on_of_nodup_map distinct known member same
    have free (entry : LocalVariable) (known : entry ∈ locals) :=
      name_ne_variable (held entry known) binding.name
    have texture : (environment.declaring alphabet locals textures).atom _ = _ :=
      declaring_atom_texture member (fun entry known => (free entry known).1) unique
    have sampler : (environment.declaring alphabet locals textures).atom _ = _ :=
      declaring_atom_sampler member (fun entry known => (free entry known).2) unique
    constructor
    · exact (leaf_of_letter "env_tex_" _ rfl rfl (by decide)).trans texture
    · exact (leaf_of_letter "env_samp_" _ rfl rfl (by decide)).trans sampler

end Environment

/-- Every environment can be made one in which the declarations of a build hold, unless two of its
textures have one variable. -/
theorem build_realizable {Host : Type} (alphabet : Alphabet) (environment : Environment V)
    (custom : Empty → NodeId → ValueType → Program Empty Host TypedTerm) (fuel : Nat)
    (root : Node Empty) (output : ValueType) (start last : Machine Empty Host) (fragment : Fragment)
    (ends : Action.build (generate custom fuel) root output start = (.done fragment, last))
    (distinct : (fragment.textures.map fun binding => Identifier.sanitize binding.name).Nodup) :
    (environment.declaring alphabet fragment.locals fragment.textures).Realizes alphabet
      fragment.locals fragment.textures := by
  obtain ⟨after, generates, locals, _⟩ := build_derives ends
  have numbered := generates.numbered fun _ _ found => by cases found
  rw [locals] at numbered
  exact Environment.declaring_realizes (build_holds ends) numbered distinct

/-! ### Every environment -/

section Apart

variable {alphabet : Alphabet} {supply : Supply Empty} {declared : Declarations} {name : String}

/-- Every declared name is a word. -/
theorem Declarations.isWord_of_mem_names (held : ∀ entry ∈ declared.locals, entry.Holds supply)
    (member : name ∈ declared.names) : IsWord name := by
  obtain ⟨entry, known, rfl⟩ | ⟨binding, _, rfl | rfl⟩ := mem_names.mp member
  · obtain ⟨index, named⟩ := (held entry known).name
    exact named ▸ Builder.isWord_localName .f32 index
  · exact Identifier.isWord_textureVariable _
  · exact Identifier.isWord_samplerVariable _

/-- A field of the inputs is written with a point, which is in no declared name. -/
theorem Declarations.field_not_mem_names (held : ∀ entry ∈ declared.locals, entry.Holds supply)
    (object member : String) : object ++ "." ++ member ∉ declared.names := by
  intro found
  have word := (isWord_of_mem_names held found).characters '.' (by simp)
  cases word

/-- No supplied text names what is declared, and the matrix of the view has a name of its own. -/
structure Declarations.Apart (alphabet : Alphabet) (supply : Supply Empty)
    (declared : Declarations) : Prop where
  texts : ∀ value, supply.has value → ∀ text, value.snippet? = some text →
    ∀ reading, alphabet.read? text = some reading →
      ∀ name, .atom name ∈ reading.parts → name ∉ declared.names
  viewMatrix : declared.config.viewMatrix ∉ declared.names

/-- Giving the declarations their meaning changes nothing that keeps apart from them. -/
theorem Environment.declaring_keeps (environment : Environment V)
    (held : ∀ entry ∈ declared.locals, entry.Holds supply) (apart : declared.Apart alphabet supply) :
    environment.Keeps alphabet supply declared.config
      (environment.declaring alphabet declared.locals declared.textures).atom where
  texts value supplied text brought reading read name part :=
    declaring_atom_of_not_mem (apart.texts value supplied text brought reading read name part)
  fields member := declaring_atom_of_not_mem (Declarations.field_not_mem_names held _ member)
  viewMatrix := declaring_atom_of_not_mem apart.viewMatrix

end Apart

/-- In every environment the meaning of a root is the value of its expression with the declarations of
the module, unless two textures have one variable or a name is declared that was there before. -/
theorem build_means_declaring {Host : Type} (alphabet : Alphabet) (environment : Environment V)
    (custom : Empty → NodeId → ValueType → Program Empty Host TypedTerm) (fuel : Nat)
    (root : Node Empty) (output : ValueType) (start last : Machine Empty Host) (fragment : Fragment)
    (accepted : start.builder.config.validate = .ok ())
    (identified : (Supply.ofParts start.builder.frames root).Identified)
    (readable : (Supply.ofParts start.builder.frames root).Readable alphabet)
    (ends : Action.build (generate custom fuel) root output start = (.done fragment, last))
    (distinct : (fragment.textures.map fun binding => Identifier.sanitize binding.name).Nodup)
    (apart : (fragment.declarations start.builder.config).Apart alphabet
      (.ofParts start.builder.frames root)) :
    ∃ value, (environment.declaring alphabet fragment.locals fragment.textures).meaning? alphabet
        fragment.expression.text = some value ∧
      ∀ meaning, Denotes alphabet environment start.builder.config start.builder.frames
        (.node root output) meaning ↔ meaning = ⟨output, value⟩ := by
  have keeps := environment.declaring_keeps (build_holds ends) apart
  have realized :=
    build_realizable alphabet environment custom fuel root output start last fragment ends distinct
  exact (build_means accepted identified readable ends keeps realized).2

/-- The blend means the same in every environment and with its declarations. -/
theorem blend_means_declaring (environment : Environment V) :
    let alphabet : Alphabet := ⟨Identifier.isWordCharacter, fun _ _ => rfl⟩
    ∃ value, (environment.declaring alphabet blendFragment.locals blendFragment.textures).meaning?
        alphabet blendFragment.expression.text = some value ∧
      ∀ meaning, Denotes alphabet environment .default [] (.node blendTree .vec4) meaning ↔
        meaning = ⟨.vec4, value⟩ := by
  intro alphabet
  have apart : (blendFragment.declarations .default).Apart alphabet (.ofParts [] blendTree) := by
    refine ⟨fun value part text brought reading read name inside => ?_, by decide⟩
    rw [blendTree_snippet part brought] at read
    obtain rfl : .call "tint" [.atom "albedo"] = reading := Option.some.inj read
    obtain rfl : name = "albedo" := by simpa [Expression.parts, Expression.partsAll] using inside
    decide
  obtain ⟨last, ends⟩ := blendTree_builds Empty.elim
  exact build_means_declaring alphabet environment Empty.elim 2 blendTree .vec4 _ last blendFragment rfl
    blendTree_identified blendTree_readable ends (by decide) apart

end ShadeTree
