import ShadeTree.Builder
import ShadeTree.Coercion
import ShadeTree.Proofs.Reading.Numeral

/-!
The smallest texts of terms.

Sanitized names, types, locals and the names of lanes are words, and each is one token wherever it is
written. Pads and literals are numerals, and are read as such.
-/

namespace ShadeTree

open Number Reading

namespace Identifier

/-- A sanitized name is a word. -/
theorem isWord_sanitize (name : String) : IsWord (sanitize name) := by
  unfold sanitize
  split
  · exact .of_all rfl
  · rename_i nonempty
    refine ⟨fun equal => nonempty ?_, fun character member => ?_⟩
    · have empty := congrArg String.toList equal
      rw [String.toList_ofList] at empty
      have none : name.toList = [] := by simpa using empty
      rw [String.toList_eq_nil_iff.mp none]
      rfl
    · rw [String.toList_ofList, List.mem_map] at member
      obtain ⟨original, _, rfl⟩ := member
      unfold sanitizeCharacter
      split
      · assumption
      · rfl

/-- A word stays one behind characters of words. -/
theorem isWord_append {first second : String} (front : first.toList.all isWordCharacter)
    (back : IsWord second) : IsWord (first ++ second) := by
  refine ⟨fun equal => back.nonempty ?_, fun character member => ?_⟩
  · have lists := congrArg String.toList equal
    rw [String.toList_append, String.toList_empty, List.append_eq_nil_iff] at lists
    exact String.toList_eq_nil_iff.mp lists.2
  · rw [String.toList_append, List.mem_append] at member
    exact member.elim (List.all_eq_true.mp front character) (back.characters character)

theorem isWord_textureVariable (name : String) : IsWord (textureVariable name) :=
  isWord_append rfl (isWord_sanitize name)

theorem isWord_samplerVariable (name : String) : IsWord (samplerVariable name) :=
  isWord_append rfl (isWord_sanitize name)

end Identifier

/-- The name of a type is a word. -/
theorem ValueType.isWord_wgsl (type : ValueType) : IsWord type.wgsl := by
  cases type with
  | f32 | vec2 | vec3 | vec4 | mat4 => exact .of_all rfl

/-- A number in decimal is a word. -/
theorem isWord_toString (number : Nat) : IsWord (toString number) := by
  refine ⟨by simp, fun digit member => ?_⟩
  rw [Nat.toString_eq_repr, Nat.toList_repr] at member
  exact isWordCharacter_of_isDigit (Nat.isDigit_of_mem_toDigits (by decide) (by decide) member)

/-- The name of a local is a word. -/
theorem Builder.isWord_localName (type : ValueType) (index : Nat) : IsWord (localName type index) := by
  apply Identifier.isWord_append
  · cases type with
    | f32 | vec2 | vec3 | vec4 | mat4 => rfl
  · exact isWord_toString index

namespace Pad

def expression (pad : Pad) : Expression :=
  .atom pad.text

/-- A pad spells its expression. -/
theorem spells {alphabet : Alphabet} (pad : Pad) : Spells alphabet pad.text pad.expression := by
  have zero : IsWord "0" := .of_all rfl
  have one : IsWord "1" := .of_all rfl
  cases pad with
  | zero => exact Spells.field zero zero
  | one => exact Spells.field one zero

end Pad

namespace Term

/-- Terms that are written in parentheses. -/
def isEnclosed : Term → Bool
  | group _ | sum .. | product .. => true
  | _ => false

/-- Lanes are named by characters of words, from `x` on. -/
theorem isWord_laneNames {count : Nat} (some : 0 < count) :
    ∃ rest, laneNames count = String.ofList ('x' :: rest) ∧
      ∀ character ∈ 'x' :: rest, Identifier.isWordCharacter character := by
  obtain ⟨more, rfl⟩ : ∃ more, count = more + 1 := ⟨count - 1, by omega⟩
  refine ⟨['y', 'z', 'w'].take more, rfl, fun character member => ?_⟩
  rcases List.mem_cons.mp member with rfl | later
  · rfl
  · have letters : ['y', 'z', 'w'].all Identifier.isWordCharacter := rfl
    exact List.all_eq_true.mp letters character (List.mem_of_mem_take later)

end Term

/-- A literal is read as the numeral of its number, which is finite. -/
theorem Alphabet.read_literal {alphabet : Alphabet} {value : Single} {text : String}
    (written : value.literal? = some text) :
    alphabet.read? text = some (.ofNumeral (value.numeral .literal)) ∧ value.isFinite := by
  unfold Single.literal? at written
  split at written
  · rename_i finite
    cases written
    exact ⟨(Spells.numeral (Binary.numeral_wellFormed _ _)).read, finite⟩
  · cases written

end ShadeTree
