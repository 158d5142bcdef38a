import ShadeTree.Proofs.Meaning.Realization

/-!
The variables of texture bindings.

A texture is registered under its name, but its variables are named after what the name is sanitized
to. Names of which only the characters without a place in identifiers differ share their variables.
-/

namespace ShadeTree

namespace Identifier

/-- Such a character becomes an underscore or is one. -/
def isGap (character : Char) : Bool :=
  !isWordCharacter character || character == '_'

/-- The empty name counts as a gap. -/
def characters (name : String) : List Char :=
  if name.isEmpty then ['_'] else name.toList

/-- The names have gaps at the same places and are equal everywhere else. -/
def Alike (first second : String) : Prop :=
  List.Forall₂ (fun left right => left = right ∨ isGap left ∧ isGap right) (characters first)
    (characters second)

/-- Different characters are sanitized to one if both are gaps. -/
theorem sanitizeCharacter_eq_iff {left right : Char} :
    sanitizeCharacter left = sanitizeCharacter right ↔ left = right ∨ isGap left ∧ isGap right := by
  unfold sanitizeCharacter isGap
  by_cases leftWord : isWordCharacter left
  · by_cases rightWord : isWordCharacter right
    · simp only [leftWord, rightWord, if_true, Bool.not_true, Bool.false_or, beq_iff_eq]
      exact ⟨.inl, fun either => either.elim id fun both => both.1.trans both.2.symm⟩
    · simp only [leftWord, rightWord, if_true, Bool.not_true, Bool.false_or, beq_iff_eq,
        Bool.not_false, Bool.true_or, and_true]
      refine ⟨.inr, fun either => either.elim (fun same => ?_) id⟩
      exact absurd (same ▸ leftWord) rightWord
  · by_cases rightWord : isWordCharacter right
    · simp only [leftWord, rightWord, if_true, Bool.not_true, Bool.false_or, beq_iff_eq,
        Bool.not_false, Bool.true_or, true_and]
      refine ⟨fun same => .inr same.symm, fun either => either.elim (fun same => ?_) Eq.symm⟩
      exact absurd (same ▸ rightWord) leftWord
    · simp [leftWord, rightWord]

/-- A name is sanitized character by character. -/
theorem sanitize_eq_map (name : String) :
    sanitize name = String.ofList ((characters name).map sanitizeCharacter) := by
  unfold sanitize characters
  split
  · rfl
  · rfl

/-- Exactly the names that are alike are sanitized to one identifier. -/
theorem sanitize_eq_iff {first second : String} :
    sanitize first = sanitize second ↔ Alike first second := by
  have lists (left right : List Char) : String.ofList left = String.ofList right ↔ left = right :=
    ⟨fun same => by simpa using congrArg String.toList same, congrArg _⟩
  rw [sanitize_eq_map, sanitize_eq_map, lists, ← List.forall₂_eq_eq_eq, List.forall₂_map_left_iff,
    List.forall₂_map_right_iff, Alike]
  simp only [sanitizeCharacter_eq_iff]

end Identifier

namespace Module

/-- What textures declare at module scope: names with their types, in the order of the bindings. -/
def bindings (textures : List TextureBinding) : List (String × String) :=
  textures.flatMap fun texture =>
    [(Identifier.textureVariable texture.name, texture.dimension.wgsl),
      (Identifier.samplerVariable texture.name, "sampler")]

/-- Every binding has one line, which declares its name with its place. -/
theorem bindingLines_eq (textures : List TextureBinding) :
    (textures.mapIdx textureLines).flatten =
      (bindings textures).mapIdx fun place binding => bindingLine place binding.1 binding.2 := by
  suffices from_place : ∀ start, (textures.mapIdx fun index => textureLines (index + start)).flatten =
      (bindings textures).mapIdx fun place binding =>
        bindingLine (place + 2 * start) binding.1 binding.2 from from_place 0
  induction textures with
  | nil => exact fun _ => rfl
  | cons texture rest ih =>
      intro start
      have index (later : Nat) : later + 1 + start = later + (start + 1) := by omega
      have place (later : Nat) : later + 1 + 1 + 2 * start = later + 2 * (start + 1) := by omega
      have later := ih (start + 1)
      simp only [List.mapIdx_cons, List.flatten_cons, index, later]
      simp only [bindings, List.flatMap_cons, List.cons_append, List.nil_append, List.mapIdx_cons,
        place, textureLines, Nat.zero_add, Nat.add_comm 1]

/-- Two textures share no variable unless their names are alike. -/
theorem variables_disjoint_iff {first second : String} :
    List.Disjoint [Identifier.textureVariable first, Identifier.samplerVariable first]
        [Identifier.textureVariable second, Identifier.samplerVariable second] ↔
      ¬Identifier.Alike first second := by
  rw [← Identifier.sanitize_eq_iff]
  constructor
  · intro apart same
    have shared : Identifier.textureVariable first = Identifier.textureVariable second :=
      congrArg ("env_tex_" ++ ·) same
    exact apart (List.mem_cons_self ..) (shared ▸ List.mem_cons_self ..)
  · intro different name left right
    simp only [List.mem_cons, List.not_mem_nil, or_false] at left right
    obtain rfl | rfl := left
    · obtain same | same := right
      · exact different ((String.append_right_inj _).mp same)
      · exact Identifier.textureVariable_ne_samplerVariable _ _ same
    · obtain same | same := right
      · exact Identifier.textureVariable_ne_samplerVariable _ _ same.symm
      · exact different ((String.append_right_inj _).mp same)

/-- Nothing is declared twice if no two textures have names that are alike. -/
theorem bindings_nodup_iff (textures : List TextureBinding) :
    ((bindings textures).map Prod.fst).Nodup ↔
      textures.Pairwise fun first second => ¬Identifier.Alike first.name second.name := by
  have own (name : String) :
      [Identifier.textureVariable name, Identifier.samplerVariable name].Nodup := by
    simp [Identifier.textureVariable_ne_samplerVariable]
  have names : (bindings textures).map Prod.fst = textures.flatMap fun texture =>
      [Identifier.textureVariable texture.name, Identifier.samplerVariable texture.name] := by
    rw [bindings, List.map_flatMap]
    rfl
  rw [names, List.nodup_flatMap]
  constructor
  · rintro ⟨_, apart⟩
    exact apart.imp fun disjoint => variables_disjoint_iff.mp disjoint
  · intro different
    exact ⟨fun texture _ => own texture.name, different.imp variables_disjoint_iff.mpr⟩

end Module

/-- The textures of a module have different names. Their variables are all different if and only if
no two of these names are alike. -/
theorem build_declares_bindings_once {Host : Type}
    (custom : Empty → NodeId → ValueType → Program Empty Host TypedTerm) (fuel : Nat)
    (root : Node Empty) (output : ValueType) (start last : Machine Empty Host) (fragment : Fragment)
    (ends : Action.build (generate custom fuel) root output start = (.done fragment, last)) :
    (fragment.textures.map TextureBinding.name).Nodup ∧
      (((Module.bindings fragment.textures).map Prod.fst).Nodup ↔
        fragment.textures.Pairwise fun first second =>
          ¬Identifier.Alike first.name second.name) := by
  obtain ⟨after, generates, _, textures, _⟩ := build_derives ends
  have once := generates.textures_nodup .nil
  rw [textures] at once
  exact ⟨once, Module.bindings_nodup_iff fragment.textures⟩

/-- A sum of two samples. -/
def samplesTree (first second : String) : Node Empty :=
  .binary 2 .add (.sample 0 first) (.sample 1 second)

/-- Two skies with names that are not alike have variables of their own. -/
theorem skies_declare_bindings_once :
    ∃ fragment last, Action.build (generate nofun 2) (samplesTree "sky" "sky2") .vec4
        ⟨.ofConfig .default, (), []⟩ = (.done fragment, last) ∧
      (fragment.textures.map TextureBinding.name).Nodup ∧
      ((Module.bindings fragment.textures).map Prod.fst).Nodup := by
  obtain ⟨fragment, last, ends, textures⟩ : ∃ fragment last,
      Action.build (generate nofun 2) (samplesTree "sky" "sky2") .vec4 ⟨.ofConfig .default, (), []⟩ =
        (.done fragment, last) ∧ fragment.textures = [⟨"sky", .plane⟩, ⟨"sky2", .plane⟩] :=
    ⟨_, _, rfl, rfl⟩
  obtain ⟨names, distinct⟩ := build_declares_bindings_once nofun 2 _ _ _ _ _ ends
  refine ⟨fragment, last, ends, names, distinct.mpr ?_⟩
  simp only [textures, ← Identifier.sanitize_eq_iff]
  decide

/-- Names that differ in a hyphen and an underscore declare their variables twice. -/
theorem skies_share_bindings :
    ∃ fragment last, Action.build (generate nofun 2) (samplesTree "sky-map" "sky_map") .vec4
        ⟨.ofConfig .default, (), []⟩ = (.done fragment, last) ∧
      (fragment.textures.map TextureBinding.name).Nodup ∧
      ¬((Module.bindings fragment.textures).map Prod.fst).Nodup := by
  refine ⟨_, _, rfl, ?_, ?_⟩
  · decide
  · decide

end ShadeTree
