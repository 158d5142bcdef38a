import ShadeTree.Description.Reader
import ShadeTree.Description.Writer
import ShadeTree.Proofs.Json.Trees

/-!
Written records and their readers.

Text, types, numbers, absent values, lists and fields are read as they were written. Of numbers
this holds for those that JSON gives back.
-/

namespace ShadeTree

open Number

/-! ### Leaves -/

/-- A finite number whose numeral is read as the number. -/
def Number.Single.Recovered (number : Single) : Prop :=
  number.isFinite ∧ (Json.number (number.numeral .literal)).readSingle = .ok number

instance (number : Single) : Decidable number.Recovered :=
  inferInstanceAs (Decidable (_ ∧ _))

namespace Json

/-- A text is read back from its string. -/
@[simp] theorem readText_ofString (content : String) :
    (ofString content).readText = .ok content := by
  rfl

@[simp] theorem ofString_valid (content : String) : (ofString content).Valid := by
  rfl

@[simp] theorem ofType_valid (type : ValueType) : (ofType type).Valid := by
  rfl

/-- A type is read back from its name. -/
@[simp] theorem readType_ofType (type : ValueType) : (ofType type).readType = .ok type := by
  cases type <;> decide

theorem ofString_ne_null (content : String) : ofString content ≠ .null := nofun

theorem ofType_ne_null (type : ValueType) : ofType type ≠ .null := nofun

/-- An option is read back, null standing for none, unless a value is itself null. -/
theorem readNullable_ofOption {α : Type} {read : Json → Reading α} {encode : α → Json}
    (recovers : ∀ value, read (encode value) = .ok value) (present : ∀ value, encode value ≠ .null)
    (option : Option α) : readNullable read (ofOption encode option) = .ok option := by
  cases option with
  | none => rfl
  | some value =>
      have read := recovers value
      have solid := present value
      unfold readNullable ofOption
      split
      · contradiction
      · rw [read]
        rfl

/-- An option can be written if its value can. -/
theorem ofOption_valid {α : Type} {encode : α → Json} (valid : ∀ value, (encode value).Valid)
    (option : Option α) : (ofOption encode option).Valid := by
  cases option with
  | none => trivial
  | some value => exact valid value

variable {number : Single}

/-- A number that is recovered from its literal is read back. -/
theorem readSingle_ofSingle (recovered : number.Recovered) :
    (ofSingle number).readSingle = .ok number := by
  rw [ofSingle, if_pos recovered.1, recovered.2]

/-- A number that is recovered has a literal that can be scanned. -/
theorem ofSingle_valid (recovered : number.Recovered) : (ofSingle number).Valid := by
  rw [ofSingle, if_pos recovered.1]
  refine ⟨Binary.numeral_plain recovered.1 .literal, ?_⟩
  have read := recovered.2
  unfold readSingle at read
  dsimp only at read
  cases quantity : (number.numeral .literal).quantity? with
  | none =>
      rw [quantity] at read
      cases read
  | some value => rfl

end Json

/-! ### Lists and fields -/

@[simp] theorem Reading.ok_bind {α β : Type} (value : α) (next : α → Reading β) :
    (.ok value : Reading α) >>= next = next value := by
  rfl

@[simp] theorem Reading.pure_eq {α : Type} (value : α) : (pure value : Reading α) = .ok value := by
  rfl

/-- A list is read back element by element. -/
theorem Items.mapItems_ofList {α : Type} {read : Json → Reading α} {encode : α → Json}
    {values : List α} (recovers : ∀ value ∈ values, read (encode value) = .ok value) :
    (ofList (values.map encode)).mapItems read = .ok values := by
  induction values with
  | nil => rfl
  | cons value values ih =>
      have head := recovers value (List.mem_cons_self ..)
      have tail := ih fun value member => recovers value (List.mem_cons_of_mem _ member)
      simp [ofList, mapItems, head, tail]

/-- The members of a written object are taken in their order. -/
theorem Members.foldFields_ofList {σ : Type} (take : σ → String → Json → Reading σ) (state : σ)
    (fields : List (String × Json)) :
    (ofList fields).foldFields take state =
      fields.foldlM (fun state field => take state field.1 field.2) state := by
  induction fields generalizing state with
  | nil => rfl
  | cons field fields ih =>
      rw [List.foldlM_cons, ofList, foldFields]
      exact congrArg _ (funext ih)

/-- A field that was not there before is taken. -/
@[simp] theorem takeField_none {σ α : Type} (key : String) (value : α) (set : Option α → σ) :
    takeField none key (.ok value) set = .ok (set (some value)) := by
  rfl

/-- A required field that was found is returned. -/
@[simp] theorem requireField_some {α : Type} (value : α) (name : String) :
    requireField (some value) name = .ok value := by
  rfl

end ShadeTree
