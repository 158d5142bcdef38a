import ShadeTree.Proofs.Number.Numeral
import ShadeTree.Proofs.Reading.Spelling

/-!
Numerals in expressions.

The digits of a numeral are one token, the sign of its exponent included, and a minus in front of it
is an operator.
-/

namespace ShadeTree

open Number

/-- The expression that the text of a numeral is read as. -/
def Expression.ofNumeral (numeral : Numeral) : Expression :=
  if numeral.negative then .unary .minus (.atom numeral.unsigned.text)
  else .atom numeral.unsigned.text

namespace Reading

variable {alphabet : Alphabet} {head sign : Char} {first digits : List Char}

theorem isWordCharacter_of_isDigit {digit : Char} (isDigit : digit.isDigit) :
    Identifier.isWordCharacter digit := by
  simp [Identifier.isWordCharacter, Char.isAlphanum, isDigit]

theorem isName_of_isDigit {digit : Char} (isDigit : digit.isDigit) : alphabet.isName digit :=
  Alphabet.isName_of_word (isWordCharacter_of_isDigit isDigit)

/-- Digits, perhaps with a point, and an `e` are an unfinished exponent. -/
theorem endsInExponent_of (digit : head.isDigit)
    (mantissa : ∀ next ∈ first, next.isDigit ∨ next = '.') :
    endsInExponent (head :: (first ++ ['e'])) := by
  have noMark : ∀ mark : Char, mark.isDigit = false → mark ≠ '.' → mark ≠ 'e' → ∀ rest,
      first ++ ['e'] ≠ mark :: rest := by
    intro mark notDigit notPoint notE rest equal
    cases first with
    | nil => exact notE (List.cons.inj equal).1.symm
    | cons next others =>
        have same : next = mark := (List.cons.inj equal).1
        rcases mantissa next (List.mem_cons_self ..) with isDigit | point
        · rw [same, notDigit] at isDigit
          cases isDigit
        · exact notPoint (same ▸ point)
  unfold endsInExponent
  split
  · rename_i equal
    exact absurd (List.cons.inj equal).2 (noMark 'x' rfl (by decide) (by decide) _)
  · rename_i equal
    exact absurd (List.cons.inj equal).2 (noMark 'X' rfl (by decide) (by decide) _)
  · rename_i equal
    obtain ⟨rfl, rfl⟩ := List.cons.inj equal
    have last : (head :: (first ++ ['e'])).getLast? = some 'e' := by
      rw [← List.cons_append, List.getLast?_concat]
    simp [digit, last]
  · rename_i equal
    cases equal

/-- A signed exponent belongs to the numeral. -/
theorem scans_exponent (digit : head.isDigit) (mantissa : ∀ next ∈ first, next.isDigit ∨ next = '.')
    (signs : sign = '+' ∨ sign = '-') (isDigit : ∀ next ∈ digits, next.isDigit) :
    Scans alphabet (head :: (first ++ 'e' :: sign :: digits))
      [.atom (String.ofList (head :: (first ++ 'e' :: sign :: digits)))] := by
  have point : head ≠ '.' := by
    rintro rfl
    cases digit
  have plain : ∀ next ∈ first ++ ['e'], alphabet.isName next ∨ next = '.' := by
    intro next member
    rcases List.mem_append.mp member with before | mark
    · exact (mantissa next before).imp_left isName_of_isDigit
    · rw [List.mem_singleton.mp mark]
      exact .inl (Alphabet.isName_of_word rfl)
  have front : scan alphabet .idle (head :: ((first ++ ['e']) ++ sign :: digits)) = _ :=
    scan_start (isName_of_isDigit digit) point plain
  have goesOn : continues alphabet (head :: (first ++ ['e'])) sign := by
    rcases signs with rfl | rfl
    · simp [continues, endsInExponent_of digit mantissa]
    · simp [continues, endsInExponent_of digit mantissa]
  have back : scan alphabet (.word (head :: ((first ++ ['e']) ++ [sign]))) (digits ++ []) = _ :=
    Scans.word_append fun next member => .inl (isName_of_isDigit (isDigit next member))
  have whole : head :: (first ++ ['e'] ++ [sign] ++ digits) =
      head :: (first ++ 'e' :: sign :: digits) := by simp
  rw [List.append_nil, whole] at back
  have same : head :: (first ++ 'e' :: sign :: digits) =
      head :: ((first ++ ['e']) ++ sign :: digits) := by simp
  rw [Scans, same, front, scan, step, extend?, if_pos goesOn]
  simp only [Option.bind_some, List.cons_append, back]
  simp [scan, flush, Token.ofWord, point]

/-- A numeral without its sign is scanned as one atom. -/
theorem scans_unsigned {numeral : Numeral} (formed : numeral.WellFormed) :
    Scans alphabet numeral.unsigned.toList [.atom numeral.unsigned.text] := by
  obtain ⟨negative, whole, fraction, exponent⟩ := numeral
  obtain ⟨nonempty, wholeDigits, fractionDigits, exponentDigits⟩ := formed
  dsimp only at *
  cases whole with
  | nil => exact absurd rfl nonempty
  | cons head rest =>
      have digit := wholeDigits head (List.mem_cons_self ..)
      have point : head ≠ '.' := by
        rintro rfl
        cases digit
      have mantissa : ∀ next ∈ rest ++ (if fraction.isEmpty then [] else '.' :: fraction),
          next.isDigit ∨ next = '.' := by
        intro next member
        rcases List.mem_append.mp member with before | after
        · exact .inl (wholeDigits next (List.mem_cons_of_mem _ before))
        · cases fraction with
          | nil => cases after
          | cons first others =>
              rcases List.mem_cons.mp after with equal | later
              · exact .inr equal
              · exact .inl (fractionDigits next later)
      have spelled : (⟨false, head :: rest, fraction, exponent⟩ : Numeral).toList =
          head :: (rest ++ (if fraction.isEmpty then [] else '.' :: fraction) ++
            Numeral.exponentText exponent) := by
        rw [Numeral.toList_eq]
        rfl
      rw [Numeral.unsigned, Numeral.text, spelled]
      generalize rest ++ (if fraction.isEmpty then [] else '.' :: fraction) = first at *
      have plain : ∀ next ∈ first, alphabet.isName next ∨ next = '.' :=
        fun next member => (mantissa next member).imp_left isName_of_isDigit
      cases exponent with
      | none =>
          rw [Numeral.exponentText, List.append_nil]
          exact scan_word (isName_of_isDigit digit) point plain
      | some marked =>
          obtain ⟨sign, digits⟩ := marked
          obtain ⟨_, isDigit⟩ := exponentDigits sign digits rfl
          cases sign with
          | plus => exact scans_exponent digit mantissa (.inl rfl) isDigit
          | minus => exact scans_exponent digit mantissa (.inr rfl) isDigit
          | absent =>
              refine scan_word (isName_of_isDigit digit) point fun next member => ?_
              rcases List.mem_append.mp member with before | after
              · exact plain next before
              · rcases List.mem_cons.mp after with rfl | last
                · exact .inl (Alphabet.isName_of_word rfl)
                · exact .inl (isName_of_isDigit (isDigit next last))

/-- A numeral is one operand. -/
theorem Spells.numeral {numeral : Numeral} (formed : numeral.WellFormed) :
    Spells alphabet numeral.text (.ofNumeral numeral) := by
  have scanned : Scans alphabet numeral.unsigned.toList _ := scans_unsigned formed
  have unsigned : numeral.toList =
      (if numeral.negative then ['-'] else []) ++ numeral.unsigned.toList := by
    rw [Numeral.toList_eq, Numeral.toList_eq]
    simp [Numeral.unsigned]
  rw [Expression.ofNumeral, Numeral.text]
  cases sign : numeral.negative with
  | false =>
      rw [sign] at unsigned
      refine ⟨_, ?_, [], _, rfl, .atom _⟩
      rw [String.toList_ofList, unsigned]
      exact scanned
  | true =>
      rw [sign] at unsigned
      have signed : Scans alphabet ('-' :: numeral.unsigned.toList) _ :=
        scanned.operator (.inr (.inl rfl)) rfl
      refine ⟨_, ?_, [.minus], _, rfl, (Fills.atom _).sign rfl⟩
      rw [String.toList_ofList, unsigned]
      exact signed

end Reading

end ShadeTree
