import ShadeTree.Config.Basic
import ShadeTree.Proofs.Reading.Term

/-!
What holds of an accepted configuration.
-/

namespace ShadeTree

open Reading

/-- A name that equals its sanitized form is a word. -/
theorem Identifier.isWord_of_isSanitized {name : String} (sanitized : isSanitized name) :
    IsWord name := by
  unfold isSanitized at sanitized
  rw [Bool.and_eq_true] at sanitized
  have same : sanitize name = name := beq_iff_eq.mp sanitized.2
  rw [← same]
  exact isWord_sanitize name

namespace Config

variable {config : Config}

/-- All conditions are checked. -/
theorem validate_ok (accepted : config.validate = .ok ()) :
    validateNames config.namedFields = .ok () ∧ validateParams [] config.params = .ok () ∧
      config.validateViewMatrix = .ok () ∧ config.validateRoughness = .ok () ∧
        config.validateMaxMip = .ok () := by
  unfold validate at accepted
  cases names : validateNames config.namedFields with
  | error cause =>
      rw [names] at accepted
      cases accepted
  | ok =>
      cases params : validateParams [] config.params with
      | error cause =>
          rw [names, params] at accepted
          cases accepted
      | ok =>
          cases viewMatrix : config.validateViewMatrix with
          | error cause =>
              rw [names, params, viewMatrix] at accepted
              cases accepted
          | ok =>
              cases roughness : config.validateRoughness with
              | error cause =>
                  rw [names, params, viewMatrix, roughness] at accepted
                  cases accepted
              | ok =>
                  rw [names, params, viewMatrix, roughness] at accepted
                  exact ⟨rfl, rfl, rfl, rfl, accepted⟩

/-- In an accepted configuration all names of fields are sanitized. -/
theorem validateNames_isSanitized {fields : List (String × String)}
    (accepted : validateNames fields = .ok ()) :
    ∀ field ∈ fields, Identifier.isSanitized field.2 := by
  induction fields with
  | nil => simp
  | cons first rest ih =>
      rw [validateNames] at accepted
      by_cases sanitized : Identifier.isSanitized first.2
      · rw [if_pos sanitized] at accepted
        intro field member
        rcases List.mem_cons.mp member with rfl | later
        · exact sanitized
        · exact ih accepted field later
      · rw [if_neg sanitized] at accepted
        cases accepted

/-- The names that expressions use are words. -/
structure Worded (config : Config) : Prop where
  inputName : IsWord config.inputName
  uvField : IsWord config.uvField
  normalField : IsWord config.normalField
  viewNormalField : IsWord config.viewNormalField
  viewMatrix : IsWord config.viewMatrix

/-- The names in an accepted configuration are words. -/
theorem worded (accepted : config.validate = .ok ()) : config.Worded := by
  have sanitized := validateNames_isSanitized (validate_ok accepted).1
  have word (field name : String) (member : (field, name) ∈ config.namedFields) : IsWord name :=
    Identifier.isWord_of_isSanitized (sanitized (field, name) member)
  refine ⟨word "inputName" _ ?_, word "uvField" _ ?_, word "normalField" _ ?_,
    word "viewNormalField" _ ?_, word "viewMatrix" _ ?_⟩
  all_goals simp [namedFields]

/-- In an accepted configuration all names of parameters are sanitized. -/
theorem validateParams_isSanitized {seen : List String} {params : List Param}
    (accepted : validateParams seen params = .ok ()) :
    ∀ param ∈ params, Identifier.isSanitized param.name := by
  induction params generalizing seen with
  | nil => simp
  | cons first rest ih =>
      rw [validateParams] at accepted
      by_cases sanitized : Identifier.isSanitized first.name
      · rw [if_neg (by simp [sanitized])] at accepted
        split at accepted
        · cases accepted
        · intro param member
          rcases List.mem_cons.mp member with rfl | later
          · exact sanitized
          · exact ih accepted param later
      · rw [if_pos (by simp [sanitized])] at accepted
        cases accepted

/-- The parameters of an accepted configuration have words for names. -/
theorem isWord_param (accepted : config.validate = .ok ()) {param : Param}
    (member : param ∈ config.params) : IsWord param.name := by
  have sanitized := validateParams_isSanitized (validate_ok accepted).2.1
  exact Identifier.isWord_of_isSanitized (sanitized param member)

/-- A parameter that is found by its name is one of the parameters. -/
theorem mem_of_paramType {name : String} {type : ValueType}
    (found : config.paramType? name = some type) : ⟨name, type⟩ ∈ config.params := by
  obtain ⟨param, search, rfl⟩ := Option.map_eq_some_iff.mp found
  have named : param.name = name := by simpa using List.find?_some search
  rw [← named]
  exact List.mem_of_find?_eq_some search

/-- An accepted configuration has the matrix of the view among its parameters. -/
theorem viewMatrix_mem (accepted : config.validate = .ok ()) :
    ⟨config.viewMatrix, .mat4⟩ ∈ config.params := by
  have checked := (validate_ok accepted).2.2.1
  unfold validateViewMatrix at checked
  split at checked
  · rename_i found
    exact mem_of_paramType found
  · cases checked
  · cases checked

/-- An accepted configuration has the roughness factor among its parameters. -/
theorem roughnessFactor_mem (accepted : config.validate = .ok ()) :
    ⟨roughnessFactor, .f32⟩ ∈ config.params := by
  have checked := (validate_ok accepted).2.2.2.1
  unfold validateRoughness at checked
  split at checked
  · rename_i found
    exact mem_of_paramType found
  · cases checked
  · cases checked

/-- The number of levels in an accepted configuration is finite. -/
theorem isFinite_envMaxMip (accepted : config.validate = .ok ()) :
    config.envMaxMip.isFinite := by
  have checked := (validate_ok accepted).2.2.2.2
  unfold validateMaxMip isNonNegative at checked
  split at checked
  · rename_i holds
    simp only [Bool.and_eq_true] at holds
    exact holds.1
  · cases checked

end Config

end ShadeTree
