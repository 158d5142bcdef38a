import ShadeTree.Term
import ShadeTree.Proofs.Reading.Operand

/-!
Texts that are one operand, and how longer ones are put together from them.
-/

namespace ShadeTree

open Reading

variable {alphabet : Alphabet} {text first second : String} {expression other : Expression}

/-- The characters of words are in the first half of the byte range. -/
theorem Identifier.ascii_of_isWordCharacter {character : Char}
    (word : isWordCharacter character) : character.toNat < 128 := by
  rw [isWordCharacter, Bool.or_eq_true, beq_iff_eq] at word
  obtain alphanumeric | rfl := word
  · have below {bound : Char} (least : bound.val ≤ 'z'.val) (most : character.val ≤ bound.val) :
        character.toNat < 128 := by
      have small : character.val.toNat ≤ 'z'.val.toNat :=
        UInt32.le_iff_toNat_le.mp (UInt32.le_trans most least)
      exact Nat.lt_of_le_of_lt small (by decide)
    obtain letter | digit := Bool.or_eq_true_iff.mp alphanumeric
    · obtain upper | lower := Bool.or_eq_true_iff.mp letter
      · exact below (by decide) (of_decide_eq_true upper).2
      · exact below (by decide) (of_decide_eq_true (Bool.and_eq_true_iff.mp lower).2)
    · exact below (by decide) (of_decide_eq_true (Bool.and_eq_true_iff.mp digit).2)
  · decide

/-- Every alphabet has the characters of words. -/
theorem Alphabet.isName_of_word {character : Char} (word : Identifier.isWordCharacter character) :
    alphabet.isName character := by
  rw [alphabet.ascii character (Identifier.ascii_of_isWordCharacter word)]
  exact word

namespace Reading

/-- A name that is made of ASCII letters, ASCII digits and underscores. -/
structure IsWord (text : String) : Prop where
  nonempty : text ≠ ""
  characters : ∀ character ∈ text.toList, Identifier.isWordCharacter character

theorem IsWord.of_all (all : (!text.toList.isEmpty && text.toList.all Identifier.isWordCharacter) = true) :
    IsWord text := by
  rw [Bool.and_eq_true, List.all_eq_true] at all
  refine ⟨?_, all.2⟩
  rintro rfl
  cases all.1

/-- The text is cut into tokens that are one operand. -/
def Spells (alphabet : Alphabet) (text : String) (expression : Expression) : Prop :=
  ∃ tokens, Scans alphabet text.toList tokens ∧ Reads tokens expression

/-- The text is one operand in parentheses. -/
def Encloses (alphabet : Alphabet) (text : String) (expression : Expression) : Prop :=
  ∃ inner tokens, text = "(" ++ inner ++ ")" ∧ Scans alphabet inner.toList tokens ∧
    Fills (.openGroup :: (tokens ++ [.closeGroup])) [] expression

/-- A text that spells an expression is read as it. -/
theorem Spells.read (spells : Spells alphabet text expression) :
    alphabet.read? text = some expression := by
  obtain ⟨tokens, scanned, reads⟩ := spells
  have cut : tokens? alphabet text = some tokens := scanned
  rw [Alphabet.read?, cut]
  exact reads.parse

/-! ### Words and numerals -/

/-- A word that begins with a character of a name is scanned as a whole. -/
theorem scan_start {head : Char} {first rest : List Char} (name : alphabet.isName head)
    (point : head ≠ '.') (plain : ∀ next ∈ first, alphabet.isName next ∨ next = '.') :
    scan alphabet .idle (head :: (first ++ rest)) = scan alphabet (.word (head :: first)) rest := by
  have started : start? alphabet head = some ([], .word [head]) := by
    simp [start?, name]
  have whole : scan alphabet (.word [head]) (first ++ rest) = _ :=
    Scans.word_append fun next member => (plain next member).imp_right fun equal => ⟨equal, point⟩
  rw [scan, step, extend?, flush]
  simp [started, whole]

/-- Characters of names and points are scanned as one atom. -/
theorem scan_word {head : Char} {rest : List Char} (name : alphabet.isName head)
    (point : head ≠ '.') (plain : ∀ next ∈ rest, alphabet.isName next ∨ next = '.') :
    Scans alphabet (head :: rest) [.atom (String.ofList (head :: rest))] := by
  have whole : scan alphabet .idle (head :: (rest ++ [])) = _ := scan_start name point plain
  rw [List.append_nil] at whole
  rw [Scans, whole]
  simp [scan, flush, Token.ofWord, point]

/-- A word starts with a character of names, and consists of such. -/
theorem IsWord.cases (word : IsWord text) :
    ∃ head rest, text.toList = head :: rest ∧ alphabet.isName head ∧ head ≠ '.' ∧
      ∀ next ∈ rest, alphabet.isName next := by
  cases spelled : text.toList with
  | nil => exact absurd (String.toList_eq_nil_iff.mp spelled) word.nonempty
  | cons head rest =>
      have characters := word.characters
      rw [spelled] at characters
      have starts := characters head (List.mem_cons_self ..)
      refine ⟨head, rest, rfl, Alphabet.isName_of_word starts, ?_, fun next member => ?_⟩
      · rintro rfl
        cases starts
      · exact Alphabet.isName_of_word (characters next (List.mem_cons_of_mem _ member))

/-- A word is scanned as one atom. -/
theorem IsWord.scans (word : IsWord text) : Scans alphabet text.toList [.atom text] := by
  obtain ⟨head, rest, spelled, name, point, names⟩ := @IsWord.cases alphabet _ word
  have scanned := scan_word name point fun next member => .inl (names next member)
  rw [← spelled, String.ofList_toList] at scanned
  exact scanned

/-- A word spells the atom of its own text. -/
theorem Spells.word (word : IsWord text) : Spells alphabet text (.atom text) :=
  ⟨_, word.scans, [], _, rfl, .atom text⟩

/-- A word with a member of it is one token. -/
theorem Spells.field (object : IsWord first) (member : IsWord second) :
    Spells alphabet (first ++ "." ++ second) (.atom (first ++ "." ++ second)) := by
  obtain ⟨head, rest, spelled, name, point, names⟩ := @IsWord.cases alphabet _ object
  have plain : ∀ next ∈ rest ++ '.' :: second.toList, alphabet.isName next ∨ next = '.' := by
    intro next found
    rcases List.mem_append.mp found with before | after
    · exact .inl (names next before)
    · rcases List.mem_cons.mp after with rfl | last
      · exact .inr rfl
      · exact .inl (Alphabet.isName_of_word (member.characters next last))
  have scanned := scan_word name point plain
  have whole : (first ++ "." ++ second).toList = head :: (rest ++ '.' :: second.toList) := by
    simp [spelled]
  rw [← whole, String.ofList_toList] at scanned
  exact ⟨_, scanned, [], _, rfl, .atom _⟩

/-! ### Parentheses -/

/-- A text that encloses an expression spells it. -/
theorem Encloses.spells (encloses : Encloses alphabet text expression) :
    Spells alphabet text expression := by
  obtain ⟨inner, tokens, rfl, scanned, fills⟩ := encloses
  refine ⟨_, ?_, [], _, rfl, fills⟩
  have closed : Scans alphabet (inner.toList ++ [')']) (tokens ++ [.closeGroup]) :=
    scanned.append rfl (.delimiter rfl rfl .nil)
  have opened : Scans alphabet ('(' :: (inner.toList ++ [')'])) _ := .delimiter rfl rfl closed
  simpa using opened

/-- A member of something in parentheses. -/
theorem Encloses.member (encloses : Encloses alphabet text expression) {head : Char}
    {rest : List Char} (letter : head.isDigit = false)
    (word : ∀ character ∈ head :: rest, Identifier.isWordCharacter character) :
    Spells alphabet (text ++ "." ++ String.ofList (head :: rest))
      (.member expression (String.ofList (head :: rest))) := by
  obtain ⟨inner, tokens, rfl, scanned, fills⟩ := encloses
  have started : start? alphabet '.' = some ([], .word ['.']) := by simp [start?]
  have names : scan alphabet (.word ['.']) ((head :: rest) ++ []) = _ :=
    Scans.word_append fun next member => .inl (Alphabet.isName_of_word (word next member))
  rw [List.append_nil] at names
  have pointed : Scans alphabet ('.' :: head :: rest) [.member (String.ofList (head :: rest))] := by
    rw [Scans, scan, step, extend?, flush]
    simp only [started, Option.bind_some, Option.map_some, names]
    simp [scan, flush, Token.ofWord, letter]
  have ended : Scans alphabet (')' :: '.' :: head :: rest) _ := .delimiter rfl rfl pointed
  have closed := scanned.append rfl ended
  have opened : Scans alphabet ('(' :: (inner.toList ++ ')' :: '.' :: head :: rest)) _ :=
    .delimiter rfl rfl closed
  have filled := fills.member (String.ofList (head :: rest))
  refine ⟨_, ?_, [], _, rfl, filled⟩
  simpa using opened

end Reading

end ShadeTree
