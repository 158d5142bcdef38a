import ShadeTree.Proofs.Reading.Numeral

/-!
The words of texts.

A word is a longest run of name characters. Words are found without reading a text, so they are there
in every text, also in one that is no expression.
-/

namespace ShadeTree

open Number Reading

namespace Alphabet

/-- The longest runs of name characters. -/
def runs (alphabet : Alphabet) (characters : List Char) : List (List Char) :=
  (characters.splitOnP fun character => !alphabet.isName character).filter fun run => !run.isEmpty

def words (alphabet : Alphabet) (text : String) : List String :=
  (alphabet.runs text.toList).map String.ofList

/-- An ASCII text between words. -/
def isDelimiter (text : String) : Bool :=
  !text.toList.isEmpty && text.toList.all fun character =>
    decide (character.toNat < 128) && !Identifier.isWordCharacter character

variable {alphabet : Alphabet} {text first second separator word : String}

/-- A delimiter ends the runs in front of it. -/
theorem runs_append_delimiter {delimiter : Char} (delimits : alphabet.isName delimiter = false)
    (front back : List Char) :
    alphabet.runs (front ++ delimiter :: back) = alphabet.runs front ++ alphabet.runs back := by
  unfold runs
  rw [List.splitOnP_append_cons front back (by simp [delimits]), List.filter_append]

/-- Delimiters alone have no runs. -/
theorem runs_append_delimiters {delimiters : List Char}
    (delimits : ∀ delimiter ∈ delimiters, alphabet.isName delimiter = false) (back : List Char) :
    alphabet.runs (delimiters ++ back) = alphabet.runs back := by
  induction delimiters with
  | nil => rfl
  | cons delimiter rest ih =>
      have skipped := runs_append_delimiter (delimits delimiter (List.mem_cons_self ..)) []
      rw [List.cons_append, ← List.nil_append (delimiter :: _), skipped,
        ih fun other member => delimits other (List.mem_cons_of_mem _ member)]
      simp [runs]

/-- The words on both sides of a delimiter are the words of the whole. -/
theorem words_separated (delimits : isDelimiter separator = true) (first second : String) :
    alphabet.words (first ++ separator ++ second) =
      alphabet.words first ++ alphabet.words second := by
  rw [isDelimiter, Bool.and_eq_true, List.all_eq_true] at delimits
  obtain ⟨nonempty, plain⟩ := delimits
  have delimiters : ∀ character ∈ separator.toList, alphabet.isName character = false := by
    intro character member
    have ascii := plain character member
    simp only [Bool.and_eq_true, decide_eq_true_eq, Bool.not_eq_true'] at ascii
    rw [alphabet.ascii character ascii.1, ascii.2]
  have some : separator.toList ≠ [] := by simpa using nonempty
  obtain ⟨delimiter, rest, spelled⟩ := List.exists_cons_of_ne_nil some
  rw [spelled] at delimiters
  have cut := runs_append_delimiter (delimiters delimiter (List.mem_cons_self ..)) first.toList
    (rest ++ second.toList)
  rw [runs_append_delimiters fun other member => delimiters other (List.mem_cons_of_mem _ member)]
    at cut
  simp only [words, String.toList_append, spelled, List.append_assoc, List.cons_append, cut,
    List.map_append]

theorem words_empty : alphabet.words "" = [] := rfl

theorem words_open (delimits : isDelimiter separator = true) (text : String) :
    alphabet.words (separator ++ text) = alphabet.words text := by
  have cut : alphabet.words ("" ++ separator ++ text) = _ := words_separated delimits "" text
  rw [String.empty_append, words_empty, List.nil_append] at cut
  exact cut

theorem words_close (delimits : isDelimiter separator = true) (text : String) :
    alphabet.words (text ++ separator) = alphabet.words text := by
  have cut : alphabet.words (text ++ separator ++ "") = _ := words_separated delimits text ""
  rw [String.append_empty, words_empty, List.append_nil] at cut
  exact cut

/-- A word is the one word of its text. -/
theorem words_of_isWord (word : IsWord text) : alphabet.words text = [text] := by
  have names : ∀ character ∈ text.toList, (!alphabet.isName character) = false := by
    intro character member
    simp [Alphabet.isName_of_word (word.characters character member)]
  have nonempty : text.toList ≠ [] := by
    intro empty
    exact word.nonempty (String.toList_eq_nil_iff.mp empty)
  simp [words, runs, List.splitOnP_eq_singleton names, nonempty, String.ofList_toList]

/-- The words of a call are its callee and those of its arguments. -/
theorem words_call (callee : String) (parts : List String) :
    alphabet.words (callee ++ Term.arguments parts) =
      alphabet.words callee ++ parts.flatMap alphabet.words := by
  have listed : alphabet.words (", ".intercalate parts) = parts.flatMap alphabet.words := by
    induction parts with
    | nil => rfl
    | cons part rest ih =>
        cases rest with
        | nil => simp [String.intercalate_singleton]
        | cons next others =>
            rw [String.intercalate_cons_cons, words_separated rfl, ih]
            simp
  rw [Term.arguments, ← String.append_assoc, words_close rfl, ← String.append_assoc,
    words_separated rfl, listed]

/-- The runs of a list consist of its characters. -/
theorem splitOnP_subset {isDelimiter : Char → Bool} {characters run : List Char}
    (member : run ∈ characters.splitOnP isDelimiter) : run ⊆ characters := by
  induction characters generalizing run with
  | nil =>
      rw [List.splitOnP_nil, List.mem_singleton] at member
      rw [member]
      exact List.Subset.refl _
  | cons character rest ih =>
      rw [List.splitOnP_cons_eq_if_modifyHead] at member
      split at member
      · rcases List.mem_cons.mp member with equal | later
        · rw [equal]
          exact List.nil_subset _
        · exact List.Subset.trans (ih later) (List.subset_cons_self _ _)
      · obtain ⟨run, others, whole⟩ :=
          List.exists_cons_of_ne_nil (List.splitOnP_ne_nil isDelimiter rest)
        rw [whole, List.modifyHead_cons] at member
        rw [whole] at ih
        rcases List.mem_cons.mp member with equal | later
        · rw [equal]
          exact List.cons_subset_cons _ (ih (List.mem_cons_self ..))
        · exact List.Subset.trans (ih (List.mem_cons_of_mem _ later)) (List.subset_cons_self _ _)

/-- A word has no other characters than its text. -/
theorem words_characters (member : word ∈ alphabet.words text) : word.toList ⊆ text.toList := by
  obtain ⟨run, found, rfl⟩ := List.mem_map.mp member
  rw [String.toList_ofList]
  exact splitOnP_subset (List.mem_filter.mp found).1

end Alphabet

end ShadeTree
