import ShadeTree.Proofs.Meaning.Realization

/-!
The names of the input struct, the entry function and its variables.

An accepted configuration has names of word characters, and its parameters have different names. That
a word is an identifier, and that names of different kinds are different, is not checked.
-/

namespace ShadeTree

open Number Reading

namespace Identifier

/-- An identifier of ASCII characters. -/
def isIdentifier (name : String) : Bool :=
  match name.toList with
  | [] => false
  | first :: rest =>
    (first.isAlpha || first == '_') && rest.all isWordCharacter && name != "_" && !begins "__" name

/-- No digit comes first, and an underscore that comes first is followed by something else. -/
structure Opens (name : String) : Prop where
  digit : name.toList.head?.any Char.isDigit = false
  single : name ≠ "_"
  double : begins "__" name = false

theorem not_isAlpha_of_isDigit {character : Char} (digit : character.isDigit) :
    character.isAlpha = false := by
  have below : character.val ≤ 57 := of_decide_eq_true (Bool.and_eq_true_iff.mp digit).2
  by_contra letter
  rcases Bool.or_eq_true_iff.mp (Bool.eq_true_of_not_eq_false letter) with upper | lower
  · have above : 65 ≤ character.val := (of_decide_eq_true upper : _ ∧ _).1
    exact absurd (UInt32.le_trans above below) (by decide)
  · have above : 97 ≤ character.val := of_decide_eq_true (Bool.and_eq_true_iff.mp lower).1
    exact absurd (UInt32.le_trans above below) (by decide)

/-- A word character is a letter or an underscore unless it is a digit. -/
theorem isLetter_eq {character : Char} (word : isWordCharacter character) :
    (character.isAlpha || character == '_') = !character.isDigit := by
  unfold isWordCharacter Char.isAlphanum at word
  cases digit : character.isDigit with
  | false => simpa [digit] using word
  | true =>
      have underscore : character ≠ '_' := by
        rintro rfl
        cases digit
      simp [not_isAlpha_of_isDigit digit, underscore]

/-- Words that begin like identifiers are identifiers. -/
theorem isIdentifier_iff {name : String} (word : IsWord name) : isIdentifier name ↔ Opens name := by
  obtain ⟨nonempty, characters⟩ := word
  obtain ⟨first, rest, spelled⟩ := List.exists_cons_of_ne_nil
    (fun empty => nonempty (String.toList_eq_nil_iff.mp empty) : name.toList ≠ [])
  rw [spelled] at characters
  have later : rest.all isWordCharacter :=
    List.all_eq_true.mpr fun character member => characters character (.tail _ member)
  have head := isLetter_eq (characters first (.head _))
  unfold isIdentifier
  rw [spelled]
  simp only [head, later, Bool.and_true, Bool.and_eq_true, Bool.not_eq_true', bne_iff_ne]
  constructor
  · rintro ⟨⟨digit, single⟩, double⟩
    exact ⟨by simpa [spelled] using digit, single, double⟩
  · rintro ⟨digit, single, double⟩
    exact ⟨⟨by simpa [spelled] using digit, single⟩, double⟩

end Identifier

namespace Module

/-- The names that a module takes from its configuration. -/
def names (config : Config) : List String :=
  config.inputStruct :: config.functionName :: config.inputName ::
    (config.members.map Prod.fst ++ config.params.map Param.name)

/-- The names of the entry function's parameters and locals. -/
def variableNames (config : Config) (locals : List LocalVariable) : List String :=
  config.inputName :: (config.params.map Param.name ++ locals.map LocalVariable.name)

/-- The names can be declared beside each other. -/
structure WellNamed (config : Config) (locals : List LocalVariable) : Prop where
  identifiers : ∀ name ∈ names config, Identifier.isIdentifier name
  members : (config.members.map Prod.fst).Nodup
  globals : config.functionName ≠ config.inputStruct
  locals : (variableNames config locals).Nodup

end Module

namespace Config

variable {config : Config}

/-- What no check ensures for a configuration whose module has so many locals. -/
structure Apart (config : Config) (count : Nat) : Prop where
  opens : ∀ name ∈ Module.names config, Identifier.Opens name
  members : (config.members.map Prod.fst).Nodup
  globals : config.functionName ≠ config.inputStruct
  input : config.inputName ∉ config.params.map Param.name
  locals : ∀ index < count, Builder.localName .f32 index ∉
    config.inputName :: config.params.map Param.name

/-- The names of an accepted configuration are words. -/
theorem isWord_names (accepted : config.validate = .ok ()) :
    ∀ name ∈ Module.names config, IsWord name := by
  have sanitized := validateNames_isSanitized (validate_ok accepted).1
  have word (field name : String) (member : (field, name) ∈ config.namedFields) : IsWord name :=
    Identifier.isWord_of_isSanitized (sanitized (field, name) member)
  have worded := config.worded accepted
  intro name member
  simp only [Module.names, members, List.map_cons, List.map_nil, List.cons_append, List.nil_append,
    List.mem_cons, List.mem_map] at member
  obtain rfl | rfl | rfl | rfl | rfl | rfl | ⟨param, known, rfl⟩ := member
  · exact word "inputStruct" _ (by simp [namedFields])
  · exact word "functionName" _ (by simp [namedFields])
  · exact worded.inputName
  · exact worded.uvField
  · exact worded.normalField
  · exact worded.viewNormalField
  · exact isWord_param accepted known

/-- Accepted parameters differ from those in front of them. -/
theorem validateParams_nodup {seen : List String} {params : List Param}
    (accepted : validateParams seen params = .ok ()) :
    (∀ param ∈ params, param.name ∉ seen) ∧ (params.map Param.name).Nodup := by
  induction params generalizing seen with
  | nil => exact ⟨by simp, .nil⟩
  | cons first rest ih =>
      rw [validateParams] at accepted
      split at accepted
      · cases accepted
      split at accepted
      · cases accepted
      rename_i fresh
      obtain ⟨later, distinct⟩ := ih accepted
      constructor
      · intro param member
        rcases List.mem_cons.mp member with rfl | member
        · simpa using fresh
        · exact fun known => later param member (.tail _ known)
      · rw [List.map_cons, List.nodup_cons]
        refine ⟨fun known => ?_, distinct⟩
        obtain ⟨param, member, same⟩ := List.mem_map.mp known
        exact later param member (same ▸ .head _)

end Config

/-- The locals of numbers are named after their places. -/
theorem Builder.Numbered.names_eq {supply : Supply Empty} {locals : List LocalVariable}
    (numbered : Numbered locals) (held : ∀ declared ∈ locals, declared.Holds supply) :
    locals.map LocalVariable.name = (List.range locals.length).map (localName .f32) := by
  apply List.ext_getElem?
  intro index
  rw [List.getElem?_map, List.getElem?_map]
  cases found : locals[index]? with
  | none =>
      have outside := List.getElem?_eq_none_iff.mp found
      simp [outside]
  | some declared =>
      have inside := (List.getElem?_eq_some_iff.mp found).1
      have type := (held declared (List.mem_of_getElem? found)).type
      rw [List.getElem?_range inside]
      simp [numbered index declared found, type]

/-- The module of an accepted configuration is well named if and only if the names that no check
compares are apart. -/
theorem Module.wellNamed_iff {supply : Supply Empty} {config : Config} {locals : List LocalVariable}
    (accepted : config.validate = .ok ()) (numbered : Builder.Numbered locals)
    (held : ∀ declared ∈ locals, declared.Holds supply) :
    WellNamed config locals ↔ config.Apart locals.length := by
  have params := (Config.validateParams_nodup (Config.validate_ok accepted).2.1).2
  have words := Config.isWord_names accepted
  have local_mem (name : String) : name ∈ locals.map LocalVariable.name ↔
      ∃ index < locals.length, Builder.localName .f32 index = name := by
    simp [numbered.names_eq held]
  constructor
  · intro named
    obtain ⟨input, rest⟩ := List.nodup_cons.mp named.locals
    rw [List.mem_append, not_or] at input
    refine ⟨fun name member => ?_, named.members, named.globals, input.1, fun index inside known => ?_⟩
    · exact (Identifier.isIdentifier_iff (words name member)).mp (named.identifiers name member)
    · have declared := (local_mem _).mpr ⟨index, inside, rfl⟩
      rcases List.mem_cons.mp known with same | param
      · exact input.2 (same ▸ declared)
      · exact List.disjoint_of_nodup_append rest param declared
  · intro apart
    refine ⟨fun name member => ?_, apart.members, apart.globals, ?_⟩
    · exact (Identifier.isIdentifier_iff (words name member)).mpr (apart.opens name member)
    · rw [variableNames, List.nodup_cons, List.mem_append, not_or, List.nodup_append]
      refine ⟨⟨apart.input, fun declared => ?_⟩, params, numbered.nodup, fun name param other declared => ?_⟩
      · obtain ⟨index, inside, same⟩ := (local_mem _).mp declared
        exact apart.locals index inside (same ▸ .head _)
      · rintro rfl
        obtain ⟨index, inside, same⟩ := (local_mem _).mp declared
        exact apart.locals index inside (same ▸ .tail _ param)

/-- A build with an accepted configuration declares words, and its parameters and its locals have
different names each. The module is well named if and only if the other names are apart. -/
theorem build_wellNamed_iff {Host : Type}
    (custom : Empty → NodeId → ValueType → Program Empty Host TypedTerm) (fuel : Nat)
    (root : Node Empty) (output : ValueType) (start last : Machine Empty Host) (fragment : Fragment)
    (accepted : start.builder.config.validate = .ok ())
    (ends : Action.build (generate custom fuel) root output start = (.done fragment, last)) :
    (∀ name ∈ Module.names start.builder.config, IsWord name) ∧
      (start.builder.config.params.map Param.name).Nodup ∧
      (fragment.locals.map LocalVariable.name).Nodup ∧
      (Module.WellNamed start.builder.config fragment.locals ↔
        start.builder.config.Apart fragment.locals.length) := by
  obtain ⟨after, generates, locals, _⟩ := build_derives ends
  have numbered := generates.numbered fun _ _ found => by cases found
  rw [locals] at numbered
  have held := build_holds ends
  have params := Config.validateParams_nodup (Config.validate_ok accepted).2.1
  exact ⟨Config.isWord_names accepted, params.2, numbered.nodup,
    Module.wellNamed_iff accepted numbered held⟩

/-- A number that is not constant. -/
def halfTree : Node Empty :=
  .float 0 (Single.ofWord 0x3f000000) false

/-- The module of a single number is well named under the default configuration. -/
theorem half_wellNamed :
    Config.default.validate = .ok () ∧
      ∃ fragment last, Action.build (generate nofun 1) halfTree .f32 ⟨.ofConfig .default, (), []⟩ =
          (.done fragment, last) ∧ Module.WellNamed .default fragment.locals := by
  have accepted : Config.default.validate = .ok () := rfl
  obtain ⟨fragment, last, ends, locals⟩ : ∃ fragment last,
      Action.build (generate nofun 1) halfTree .f32 ⟨.ofConfig .default, (), []⟩ =
        (.done fragment, last) ∧ fragment.locals.length = 1 := ⟨_, _, rfl, rfl⟩
  obtain ⟨words, _, _, named⟩ := build_wellNamed_iff nofun 1 _ _ _ _ _ accepted ends
  have identifiers : ∀ name ∈ Module.names .default, Identifier.isIdentifier name := by decide
  refine ⟨accepted, fragment, last, ends, named.mpr ?_⟩
  rw [locals]
  refine ⟨fun name member => ?_, by decide, by decide, by decide, by decide⟩
  exact (Identifier.isIdentifier_iff (words name member)).mp (identifiers name member)

/-- Names that begin with a digit or are only underscores, and names that two declarations share, are
accepted. -/
theorem half_not_wellNamed :
    List.Forall (fun config : Config => config.validate = .ok () ∧
        ∃ fragment last, Action.build (generate nofun 1) halfTree .f32 ⟨.ofConfig config, (), []⟩ =
          (.done fragment, last) ∧ ¬Module.WellNamed config fragment.locals)
      [{ Config.default with functionName := "2nd" },
        { Config.default with inputStruct := "_" },
        { Config.default with uvField := "__uv" },
        { Config.default with normalField := "uv" },
        { Config.default with functionName := "NodeInputs" },
        { Config.default with inputName := "view_matrix" },
        { Config.default with inputName := "nf_float_0" }] := by
  simp only [List.Forall]
  refine ⟨⟨rfl, _, _, rfl, fun named => ?_⟩, ⟨rfl, _, _, rfl, fun named => ?_⟩,
    ⟨rfl, _, _, rfl, fun named => ?_⟩, ⟨rfl, _, _, rfl, fun named => ?_⟩,
    ⟨rfl, _, _, rfl, fun named => ?_⟩, ⟨rfl, _, _, rfl, fun named => ?_⟩,
    ⟨rfl, _, _, rfl, fun named => ?_⟩⟩
  · exact absurd named.identifiers (by decide)
  · exact absurd named.identifiers (by decide)
  · exact absurd named.identifiers (by decide)
  · exact absurd named.members (by decide)
  · exact absurd named.globals (by decide)
  · exact absurd named.locals (by decide)
  · exact absurd named.locals (by decide)

end ShadeTree
