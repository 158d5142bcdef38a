import ShadeTree.Proofs.Declaration.Words

/-!
The names that a build declares.

They begin in ways of their own. If no other name and no text begins so, the words of a term that begin
so are declared, and what a derivation declares is a word of its expression.
-/

namespace ShadeTree

open Number Reading

def begins (front word : String) : Bool :=
  front.toList.isPrefixOf word.toList

/-- The word begins like the name of a local, of a texture or of a sampler. -/
def isReserved (word : String) : Bool :=
  begins "nf_float_" word || begins "env_tex_" word || begins "env_samp_" word

/-- No word of the text is reserved for declarations. -/
def Alphabet.IsFree (alphabet : Alphabet) (text : String) : Prop :=
  ∀ word ∈ alphabet.words text, isReserved word = false

/-- All names of a configuration, those of the parameters included. -/
def Config.names (config : Config) : List String :=
  config.namedFields.map Prod.snd ++ config.params.map Param.name

/-- The names that a build declares. -/
def Declarations.names (declared : Declarations) : List String :=
  declared.locals.map LocalVariable.name ++
    declared.textures.flatMap fun binding =>
      [Identifier.textureVariable binding.name, Identifier.samplerVariable binding.name]

/-- A name is declared for a local, or for a texture or its sampler. -/
theorem Declarations.mem_names {declared : Declarations} {name : String} :
    name ∈ declared.names ↔ (∃ entry ∈ declared.locals, entry.name = name) ∨
      ∃ binding ∈ declared.textures, name = Identifier.textureVariable binding.name ∨
        name = Identifier.samplerVariable binding.name := by
  simp [names]

/-- A text begins with what stands in front. -/
theorem begins_append (front back : String) : begins front (front ++ back) := by
  rw [begins, String.toList_append, List.isPrefixOf_iff_prefix]
  exact List.prefix_append _ _

/-- Texts that begin apart stay apart if more follows. -/
theorem begins_append_ne {front other : String} (back : String)
    (apart : ∀ rest, other.toList.isPrefixOf (front.toList ++ rest) = false) :
    begins other (front ++ back) = false := by
  rw [begins, String.toList_append]
  exact apart _

/-- A word that begins with a text holds the underscore of the text. -/
theorem underscore_of_begins {front word : String} (long : '_' ∈ front.toList)
    (starts : begins front word = true) : '_' ∈ word.toList :=
  (List.isPrefixOf_iff_prefix.mp starts).subset long

/-- All reserved words hold an underscore. -/
theorem underscore_of_isReserved {word : String} (reserved : isReserved word) :
    '_' ∈ word.toList := by
  unfold isReserved at reserved
  rw [Bool.or_eq_true, Bool.or_eq_true] at reserved
  obtain (starts | starts) | starts := reserved
  · exact underscore_of_begins (by simp) starts
  · exact underscore_of_begins (by simp) starts
  · exact underscore_of_begins (by simp) starts

variable {alphabet : Alphabet} {supply : Supply Empty} {declared : Declarations} {term : Term}
  {type : ValueType} {text word name : String}

/-- A text without an underscore has no reserved words. -/
theorem Alphabet.isFree_of_not_mem (absent : '_' ∉ text.toList) : alphabet.IsFree text := by
  intro word member
  by_contra reserved
  rw [Bool.not_eq_false] at reserved
  exact absent (words_characters member (underscore_of_isReserved reserved))

theorem Pad.isFree (pad : Pad) : alphabet.IsFree pad.text := by
  apply Alphabet.isFree_of_not_mem
  cases pad with
  | zero | one => simp [text]

/-- No name of a type is reserved. -/
theorem ValueType.not_isReserved (type : ValueType) : isReserved type.wgsl = false := by
  cases type with
  | f32 | vec2 | vec3 | vec4 | mat4 => rfl

/-- No name of lanes is reserved. -/
theorem Narrowing.not_isReserved {source target : ValueType} {count : Nat}
    (narrowing : Narrowing source target count) : isReserved (Term.laneNames count) = false := by
  cases narrowing with
  | pairScalar | tripleScalar | quadrupleScalar | triplePair | quadruplePair | quadrupleTriple => rfl

/-- What the author of a graph brings has no reserved words, and neither have the names of the
configuration. -/
structure Declarations.Free (alphabet : Alphabet) (supply : Supply Empty) (declared : Declarations) :
    Prop where
  texts : ∀ value, supply.has value → ∀ text, value.snippet? = some text → alphabet.IsFree text
  names : ∀ name ∈ declared.config.names, alphabet.IsFree name

/-- Names of the configuration that are words are not reserved. -/
theorem Declarations.Free.not_isReserved (free : declared.Free alphabet supply)
    (member : name ∈ declared.config.names) (spelled : IsWord name) : isReserved name = false := by
  apply free.names name member
  rw [Alphabet.words_of_isWord spelled]
  exact List.mem_singleton_self _

/-- The fields of the inputs are among the names of the configuration. -/
theorem Config.mem_names_of_member {config : Config} (member : (name, type) ∈ config.members) :
    name ∈ config.names := by
  simp only [members, List.mem_cons, Prod.mk.injEq, List.not_mem_nil, or_false] at member
  obtain ⟨rfl, _⟩ | ⟨rfl, _⟩ | ⟨rfl, _⟩ := member <;> simp [names, namedFields]

/-- The reserved words of a typed term are declared. -/
theorem Term.HasType.declares (typed : term.HasType supply declared type)
    (free : declared.Free alphabet supply) (worded : declared.Worded)
    (member : word ∈ term.words alphabet) (reserved : isReserved word) : word ∈ declared.names := by
  have plain {other : String} (free : isReserved other = false) (same : word = other) :
      word ∈ declared.names := by
    rw [same, free] at reserved
    cases reserved
  induction typed with
  | verbatim supplied brought => exact plain (free.texts _ supplied _ brought word member) rfl
  | @number value =>
      have absent : '_' ∉ (value.numeral .literal).text.toList :=
        Numeral.not_mem_text (Binary.numeral_wellFormed value .literal) rfl
      exact plain (Alphabet.isFree_of_not_mem absent word member) rfl
  | @held entry known =>
      rw [List.mem_singleton.mp member]
      exact Declarations.mem_names.mpr (.inl ⟨entry, known, rfl⟩)
  | @parameter param known =>
      have named : param.name ∈ declared.config.names :=
        List.mem_append_right _ (List.mem_map_of_mem known)
      exact plain (free.not_isReserved named (worded.params param known)) (List.mem_singleton.mp member)
  | @field name type known =>
      have named := Config.mem_names_of_member known
      rcases List.mem_cons.mp member with object | last
      · have inputNamed : declared.config.inputName ∈ declared.config.names := by
          simp [Config.names, Config.namedFields]
        exact plain (free.not_isReserved inputNamed worded.config.inputName) object
      · exact plain (free.not_isReserved named (worded.member known)) (List.mem_singleton.mp last)
  | group typed ih => exact ih member
  | lanes narrowing typed ih =>
      rcases List.mem_append.mp member with inside | last
      · exact ih inside
      · exact plain narrowing.not_isReserved (List.mem_singleton.mp last)
  | @vector value source target copies pads composes typed ih =>
      rcases List.mem_cons.mp member with first | later
      · exact plain target.not_isReserved first
      · rcases List.mem_append.mp later with inside | padded
        · obtain ⟨words, copied, found⟩ := List.mem_flatten.mp inside
          rw [List.eq_of_mem_replicate copied] at found
          exact ih found
        · obtain ⟨pad, _, found⟩ := List.mem_flatMap.mp padded
          exact plain (pad.isFree word found) rfl
  | sum leftTyped rightTyped left right | product leftTyped rightTyped left right
  | turned leftTyped rightTyped left right =>
      rcases List.mem_append.mp member with first | second
      · exact left first
      · exact right second
  | mix leftTyped rightTyped factorTyped left right factor =>
      rcases List.mem_cons.mp member with callee | inside
      · exact plain rfl callee
      · rcases List.mem_append.mp inside with first | later
        · exact left first
        · rcases List.mem_append.mp later with second | third
          · exact right second
          · exact factor third
  | normalize typed ih =>
      rcases List.mem_cons.mp member with callee | inside
      · exact plain rfl callee
      · exact ih inside
  | @sample binding place level type known typed dimensioned levelTyped coordinate detail =>
      simp only [Term.words, List.mem_cons, List.mem_append] at member
      obtain callee | texture | sampler | inside | inside := member
      · exact plain rfl callee
      · exact Declarations.mem_names.mpr (.inr ⟨binding, known, .inl texture⟩)
      · exact Declarations.mem_names.mpr (.inr ⟨binding, known, .inr sampler⟩)
      · exact coordinate inside
      · exact detail inside

/-- The names of locals, textures and samplers begin differently. -/
theorem Declarations.mem_names_cases {declared : Declarations} (member : name ∈ declared.names)
    (held : ∀ entry ∈ declared.locals, entry.Holds supply) :
    ((∃ entry ∈ declared.locals, name = entry.name) ∧ begins "env_tex_" name = false ∧
        begins "env_samp_" name = false) ∨
      ((∃ binding ∈ declared.textures, name = Identifier.textureVariable binding.name) ∧
        begins "nf_float_" name = false ∧ begins "env_samp_" name = false) ∨
      ((∃ binding ∈ declared.textures, name = Identifier.samplerVariable binding.name) ∧
        begins "nf_float_" name = false ∧ begins "env_tex_" name = false) := by
  obtain ⟨entry, known, rfl⟩ | ⟨binding, known, rfl | rfl⟩ := mem_names.mp member
  · obtain ⟨index, named⟩ := (held entry known).name
    refine .inl ⟨⟨entry, known, rfl⟩, ?_⟩
    rw [named]
    exact ⟨begins_append_ne _ fun _ => rfl, begins_append_ne _ fun _ => rfl⟩
  · exact .inr (.inl ⟨⟨binding, known, rfl⟩, begins_append_ne _ fun _ => rfl,
      begins_append_ne _ fun _ => rfl⟩)
  · exact .inr (.inr ⟨⟨binding, known, rfl⟩, begins_append_ne _ fun _ => rfl,
      begins_append_ne _ fun _ => rfl⟩)

/-- The names of an accepted configuration and of the locals of numbers are words. -/
theorem Declarations.worded (accepted : declared.config.validate = .ok ())
    (held : ∀ entry ∈ declared.locals, entry.Holds supply) : declared.Worded where
  config := Config.worded accepted
  params _ member := Config.isWord_param accepted member
  locals entry member := by
    obtain ⟨index, named⟩ := (held entry member).name
    exact named ▸ Builder.isWord_localName .f32 index

/-! ### Use -/

section Use

variable {builder after : Builder Empty} {demand : Demand}
  {expression result left right first second : TypedTerm} {target : ValueType}

/-- A conversion keeps the words of an expression. -/
theorem Converts.words_subset (alphabet : Alphabet)
    (converts : Converts expression target result) :
    expression.term.words alphabet ⊆ result.term.words alphabet := by
  intro word member
  cases converts with
  | same => exact member
  | @spread _ copies pads spread =>
      have copied : word ∈ (List.replicate copies (expression.term.words alphabet)).flatten := by
        apply List.mem_flatten.mpr
        exact ⟨_, List.mem_replicate.mpr ⟨spread.pos.ne', rfl⟩, member⟩
      exact List.mem_cons_of_mem _ (List.mem_append_left _ copied)
  | narrowed narrowing => exact List.mem_append_left _ member

/-- Operands in their common type keep their words. -/
theorem TypedTerm.unify_words (alphabet : Alphabet)
    (done : left.unify right = .ok (first, second, type)) :
    left.term.words alphabet ⊆ first.term.words alphabet ∧
      right.term.words alphabet ⊆ second.term.words alphabet := by
  obtain ⟨same, rfl, rfl, rfl⟩ | ⟨scalar, vector, rfl, converts, rfl⟩ |
    ⟨scalar, vector, rfl, rfl, converts⟩ := unify_converts done
  · exact ⟨List.Subset.refl _, List.Subset.refl _⟩
  · exact ⟨converts.words_subset alphabet, List.Subset.refl _⟩
  · exact ⟨List.Subset.refl _, converts.words_subset alphabet⟩

/-- The words of an operation are those of its operands. -/
theorem BinaryOperation.words_term (operation : BinaryOperation) (first second : Term) :
    (operation.term first second).words alphabet =
      first.words alphabet ++ second.words alphabet := by
  cases operation with
  | add => rfl
  | multiply => rfl

/-- A declaration adds no name but the one that it gives. -/
theorem Builder.declareLocal_names {owner : NodeId} {initializer : String}
    (member : name ∈ (builder.declareLocal owner type initializer).2.declarations.names) :
    name ∈ builder.declarations.names ∨ name = (builder.declareLocal owner type initializer).1 := by
  obtain ⟨_, _, _, equal⟩ | ⟨_, equal⟩ := builder.declareLocal_spec owner type initializer
  · rw [equal] at member
    exact .inl member
  · rw [equal] at member ⊢
    obtain ⟨entry, known, rfl⟩ | textures := Declarations.mem_names.mp member
    · rcases List.mem_append.mp known with old | new
      · exact .inl (Declarations.mem_names.mpr (.inl ⟨entry, old, rfl⟩))
      · rw [List.mem_singleton.mp new]
        exact .inr rfl
    · exact .inl (Declarations.mem_names.mpr (.inr textures))

/-- A registration adds no names but those of the texture and its sampler. -/
theorem Builder.registerTexture_names {texture : String} {dimension : Dimension} {index : Nat}
    (registered : builder.registerTexture texture dimension = .ok (index, after))
    (member : name ∈ after.declarations.names) :
    name ∈ builder.declarations.names ∨ name = Identifier.textureVariable texture ∨
      name = Identifier.samplerVariable texture := by
  obtain ⟨_, rfl⟩ | ⟨_, rfl⟩ := registerTexture_spec registered
  · exact .inl member
  · obtain locals | ⟨binding, known, named⟩ := Declarations.mem_names.mp member
    · exact .inl (Declarations.mem_names.mpr (.inl locals))
    · rcases List.mem_append.mp known with old | new
      · exact .inl (Declarations.mem_names.mpr (.inr ⟨binding, old, named⟩))
      · rw [List.mem_singleton.mp new] at named
        exact .inr named

/-- What a derivation declares is a word of its expression. -/
theorem Generates.uses (alphabet : Alphabet)
    (generates : Generates supply builder demand expression after) :
    ∀ name ∈ after.declarations.names,
      name ∈ builder.declarations.names ∨ name ∈ expression.term.words alphabet := by
  induction generates with
  | expression | inlined | normal | literal | input | smooth => exact fun name member => .inl member
  | declared supplied written =>
      intro name member
      exact (Builder.declareLocal_names member).imp_right List.mem_singleton.mpr
  | context inside ih => exact ih
  | override found inside ih | redirected found inside ih | rough found inside ih => exact ih
  | fallback missing inside ih => exact ih
  | tree inside ih => exact ih
  | converted inside conversion ih =>
      intro name member
      have kept := (TypedTerm.coerce_converts conversion).words_subset alphabet
      exact (ih name member).imp_right fun word => kept word
  | sample supplied addressed dimensioned blurred finite registered first second =>
      intro name member
      simp only [Term.words, List.mem_cons, List.mem_append]
      obtain before | texture | sampler := Builder.registerTexture_names registered member
      · obtain old | used := second name before
        · obtain older | used := first name old
          · exact .inl older
          · exact .inr (.inr (.inr (.inr (.inl used))))
        · exact .inr (.inr (.inr (.inr (.inr (.inl used)))))
      · exact .inr (.inr (.inl texture))
      · exact .inr (.inr (.inr (.inl sampler)))
  | binary leftDone rightDone unified first second =>
      intro name member
      obtain ⟨leftKept, rightKept⟩ := TypedTerm.unify_words alphabet unified
      rw [BinaryOperation.words_term, List.mem_append]
      obtain old | used := second name member
      · obtain older | used := first name old
        · exact .inl older
        · exact .inr (.inl (leftKept used))
      · exact .inr (.inr (rightKept used))
  | mix leftDone rightDone unified factorDone first second third =>
      intro name member
      obtain ⟨leftKept, rightKept⟩ := TypedTerm.unify_words alphabet unified
      simp only [Term.words, List.mem_cons, List.mem_append]
      obtain old | used := third name member
      · obtain older | used := second name old
        · obtain oldest | used := first name older
          · exact .inl oldest
          · exact .inr (.inr (.inl (leftKept used)))
        · exact .inr (.inr (.inr (.inl (rightKept used))))
      · exact .inr (.inr (.inr (.inr used)))

end Use

end ShadeTree
