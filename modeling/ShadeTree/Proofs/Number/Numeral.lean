import ShadeTree.Proofs.Number.Reading

/-!
The texts of numerals.

A decimal numeral can be read off its text. A finite number is written as a numeral whose text reads
as that numeral, and no literal reads as an integer.
-/

namespace ShadeTree.Number

namespace Numeral

def signOf : List Char → Sign × List Char
  | '+' :: digits => (.plus, digits)
  | '-' :: digits => (.minus, digits)
  | digits => (.absent, digits)

/-- The exponent at the end of a numeral. -/
def exponentOf? : List Char → Option (Option (Sign × List Char))
  | [] => some none
  | mark :: rest =>
    let (sign, digits) := signOf rest
    if (mark = 'e' ∨ mark = 'E') ∧ digits ≠ [] ∧ digits.all Char.isDigit then
      some (some (sign, digits))
    else none

/-- The numeral without a sign that the characters are, if they are one. -/
def ofCharacters? (characters : List Char) : Option Numeral :=
  let whole := characters.takeWhile Char.isDigit
  match characters.dropWhile Char.isDigit with
  | '.' :: rest =>
    (exponentOf? (rest.dropWhile Char.isDigit)).map
      (⟨false, whole, rest.takeWhile Char.isDigit, ·⟩)
  | rest => (exponentOf? rest).map (⟨false, whole, [], ·⟩)

/-- Digits stand where digits belong. -/
structure WellFormed (numeral : Numeral) : Prop where
  whole : numeral.whole ≠ []
  wholeDigits : ∀ digit ∈ numeral.whole, digit.isDigit
  fractionDigits : ∀ digit ∈ numeral.fraction, digit.isDigit
  exponent : ∀ sign digits, numeral.exponent = some (sign, digits) →
    digits ≠ [] ∧ ∀ digit ∈ digits, digit.isDigit

/-- A numeral with a fraction or an exponent, which no integer has. -/
def isReal (numeral : Numeral) : Bool :=
  (!numeral.whole.isEmpty || !numeral.fraction.isEmpty) &&
    (!numeral.fraction.isEmpty || numeral.exponent.isSome)

/-- The numeral without its sign. -/
def unsigned (numeral : Numeral) : Numeral :=
  { numeral with negative := false }

def exponentText (exponent : Option (Sign × List Char)) : List Char :=
  match exponent with
  | none => []
  | some (sign, digits) => 'e' :: sign.toList ++ digits

/-- A sign in front of digits is read back with them. -/
theorem signOf_toList (sign : Sign) {digits : List Char} (nonempty : digits ≠ [])
    (isDigit : ∀ digit ∈ digits, digit.isDigit) : signOf (sign.toList ++ digits) = (sign, digits) := by
  cases sign with
  | plus | minus => rfl
  | absent =>
      cases digits with
      | nil => exact absurd rfl nonempty
      | cons first rest =>
          have digit := isDigit first (List.mem_cons_self ..)
          unfold signOf
          split
          · rename_i equal
            cases equal
            cases digit
          · rename_i equal
            cases equal
            cases digit
          · rfl

/-- A written exponent is read back. -/
theorem exponentOf_exponentText {exponent : Option (Sign × List Char)}
    (formed : ∀ sign digits, exponent = some (sign, digits) →
      digits ≠ [] ∧ ∀ digit ∈ digits, digit.isDigit) :
    exponentOf? (exponentText exponent) = some exponent := by
  match exponent with
  | none => rfl
  | some (sign, digits) =>
      obtain ⟨nonempty, isDigit⟩ := formed sign digits rfl
      have all : digits.all Char.isDigit := List.all_eq_true.mpr isDigit
      rw [exponentText, List.cons_append, exponentOf?, signOf_toList sign nonempty isDigit]
      simp [nonempty, all]

/-- A numeral is written as sign, whole part, fraction and exponent. -/
theorem toList_eq (numeral : Numeral) :
    numeral.toList = (if numeral.negative then ['-'] else []) ++ numeral.whole ++
      (if numeral.fraction.isEmpty then [] else '.' :: numeral.fraction) ++
        exponentText numeral.exponent := by
  unfold toList exponentText
  congr 1

/-- A numeral is made of digits, signs, a point and the letter of its exponent. -/
theorem not_mem_text {numeral : Numeral} (formed : numeral.WellFormed) {character : Char}
    (strange : (character.isDigit || ['-', '+', '.', 'e'].contains character) = false) :
    character ∉ numeral.text.toList := by
  simp only [Bool.or_eq_false_iff, List.contains_eq_mem, decide_eq_false_iff_not, List.mem_cons,
    List.not_mem_nil, or_false, not_or] at strange
  obtain ⟨noDigit, minus, plus, point, letter⟩ := strange
  have noDigits : ∀ digits : List Char, (∀ digit ∈ digits, digit.isDigit) → character ∉ digits := by
    intro digits isDigit member
    rw [isDigit character member] at noDigit
    cases noDigit
  have whole := noDigits _ formed.wholeDigits
  have fraction := noDigits _ formed.fractionDigits
  have exponent : character ∉ exponentText numeral.exponent := by
    match found : numeral.exponent with
    | none => simp [exponentText]
    | some (sign, digits) =>
        have rest := noDigits _ (formed.exponent sign digits found).2
        cases sign with
        | plus | minus | absent => simp [exponentText, Sign.toList, rest, letter, minus, plus]
  rw [text, String.toList_ofList, toList_eq]
  simp only [List.mem_append, not_or]
  refine ⟨⟨⟨?_, whole⟩, ?_⟩, exponent⟩
  · split <;> simp [minus]
  · split
    · simp
    · simp [fraction, point]

/-- No digit stands in front of an exponent. -/
theorem exponentText_head (exponent : Option (Sign × List Char)) :
    (exponentText exponent).takeWhile Char.isDigit = [] ∧
      (exponentText exponent).dropWhile Char.isDigit = exponentText exponent := by
  match exponent with
  | none => exact ⟨rfl, rfl⟩
  | some (sign, digits) => exact ⟨rfl, rfl⟩

/-- A numeral without a sign can be read off its text. -/
theorem ofCharacters_toList {numeral : Numeral} (formed : numeral.WellFormed)
    (positive : numeral.negative = false) : ofCharacters? numeral.toList = some numeral := by
  obtain ⟨negative, whole, fraction, exponent⟩ := numeral
  obtain ⟨nonempty, wholeDigits, fractionDigits, exponentDigits⟩ := formed
  dsimp only at *
  subst positive
  obtain ⟨noDigits, allLeft⟩ := exponentText_head exponent
  have exponentRead := exponentOf_exponentText exponentDigits
  rw [toList_eq]
  simp only [Bool.false_eq_true, if_false, List.nil_append]
  cases fraction with
  | nil =>
      simp only [List.isEmpty_nil, if_true, List.append_nil]
      unfold ofCharacters?
      dsimp only
      rw [List.takeWhile_append_of_pos wholeDigits, List.dropWhile_append_of_pos wholeDigits,
        noDigits, allLeft, List.append_nil]
      split
      · rename_i rest equal
        match exponent with
        | none => cases equal
        | some (sign, digits) => cases equal
      · rw [exponentRead]
        rfl
  | cons first rest =>
      simp only [List.isEmpty_cons, Bool.false_eq_true, if_false, List.append_assoc]
      unfold ofCharacters?
      dsimp only
      have stop : Char.isDigit '.' = false := rfl
      rw [List.takeWhile_append_of_pos wholeDigits, List.dropWhile_append_of_pos wholeDigits,
        List.cons_append, List.takeWhile_cons_of_neg (by simp [stop]),
        List.dropWhile_cons_of_neg (by simp [stop]), List.append_nil]
      simp only
      rw [List.takeWhile_append_of_pos fractionDigits, List.dropWhile_append_of_pos fractionDigits,
        noDigits, allLeft, List.append_nil, exponentRead]
      rfl

end Numeral

/-- The digits of a number are digits. -/
theorem decimalDigits_isDigit {number : Nat} {digit : Char} (member : digit ∈ decimalDigits number) :
    digit.isDigit :=
  Nat.isDigit_of_mem_toDigits (by decide) (by decide) member

namespace Style

variable {style : Style}

theorem zeros_isDigit {count : Nat} {digit : Char} (member : digit ∈ zeros count) : digit.isDigit := by
  rw [List.eq_of_mem_replicate member]
  rfl

theorem wholeFraction_isDigit {digit : Char} (member : digit ∈ style.wholeFraction) :
    digit.isDigit := by
  rw [wholeFraction_eq] at member
  exact zeros_isDigit member

/-- Every style writes well-formed numerals. -/
theorem numeral_wellFormed (style : Style) (negative : Bool) (decimal : Decimal) :
    (style.numeral negative decimal).WellFormed := by
  have nonempty : decimalDigits decimal.digits ≠ [] := Nat.toDigits_ne_nil
  have isDigit : ∀ digit ∈ decimalDigits decimal.digits, digit.isDigit :=
    fun _ => decimalDigits_isDigit
  unfold numeral
  dsimp only
  generalize decimalDigits decimal.digits = digits at *
  have positive : 0 < digits.length := List.length_pos_iff.mpr nonempty
  split
  · split
    · refine ⟨by simp, by simp, fun digit member => ?_, by simp⟩
      rcases List.mem_append.mp member with zero | other
      · exact zeros_isDigit zero
      · exact isDigit digit other
    · split
      · refine ⟨by simp [nonempty], fun digit member => ?_, fun _ => wholeFraction_isDigit, by simp⟩
        rcases List.mem_append.mp member with other | zero
        · exact isDigit digit other
        · exact zeros_isDigit zero
      · refine ⟨?_, fun digit member => isDigit digit (List.mem_of_mem_take member),
          fun digit member => isDigit digit (List.mem_of_mem_drop member), by simp⟩
        apply List.ne_nil_of_length_pos
        rw [List.length_take]
        omega
  · refine ⟨?_, fun digit member => isDigit digit (List.mem_of_mem_take member),
      fun digit member => isDigit digit (List.mem_of_mem_drop member), ?_⟩
    · apply List.ne_nil_of_length_pos
      rw [List.length_take]
      omega
    · intro sign others equal
      cases equal
      exact ⟨Nat.toDigits_ne_nil, fun _ => decimalDigits_isDigit⟩

/-- A style that marks whole numbers writes no integers. -/
theorem numeral_isReal (marks : style.marksWhole) (negative : Bool) (decimal : Decimal) :
    (style.numeral negative decimal).isReal := by
  have nonempty : decimalDigits decimal.digits ≠ [] := Nat.toDigits_ne_nil
  unfold numeral
  dsimp only
  generalize decimalDigits decimal.digits = digits at *
  have positive : 0 < digits.length := List.length_pos_iff.mpr nonempty
  split
  · split
    · simp [Numeral.isReal, nonempty]
    · split
      · simp [Numeral.isReal, wholeFraction, marks]
      · rename_i inside
        have left : digits.drop (digits.length + decimal.exponent).toNat ≠ [] := by
          apply List.ne_nil_of_length_pos
          rw [List.length_drop]
          omega
        simp [Numeral.isReal, left]
  · have taken : digits.take 1 ≠ [] := by
      apply List.ne_nil_of_length_pos
      rw [List.length_take]
      omega
    simp [Numeral.isReal, taken]

end Style

namespace Binary

variable {format : Format}

/-- Every number is written as a well-formed numeral. -/
theorem numeral_wellFormed (number : Binary format) (style : Style) :
    (number.numeral style).WellFormed := by
  unfold numeral
  split
  · exact ⟨by simp, by simp, fun _ => Style.wholeFraction_isDigit, by simp⟩
  · exact style.numeral_wellFormed _ _

/-- A style that marks whole numbers writes every number as a real. -/
theorem numeral_isReal {style : Style} (marks : style.marksWhole) (number : Binary format) :
    (number.numeral style).isReal := by
  unfold numeral
  split
  · simp [Numeral.isReal, Style.wholeFraction, marks]
  · exact Style.numeral_isReal marks _ _

/-- A numeral has the sign of its number. -/
theorem numeral_negative (number : Binary format) (style : Style) :
    (number.numeral style).negative = number.negative := by
  unfold numeral
  split
  · rfl
  · exact style.numeral_sign _ _

end Binary

/-- The number that a text reads as, if it is a numeral with a fraction or an exponent. -/
def Single.ofText? (text : String) : Option Single :=
  match Numeral.ofCharacters? text.toList with
  | some numeral => if numeral.isReal then some (numeral.nearest .single) else none
  | none => none

/-- The literal of a finite number, its sign left out, reads as the number without its sign. -/
theorem Single.ofText_literal {number : Single} (finite : number.isFinite) :
    ofText? (number.numeral .literal).unsigned.text = some { number with negative := false } := by
  have formed := number.numeral_wellFormed .literal
  have real : (number.numeral .literal).unsigned.isReal := number.numeral_isReal rfl
  have read : Numeral.ofCharacters? (number.numeral .literal).unsigned.toList =
      some (number.numeral .literal).unsigned :=
    Numeral.ofCharacters_toList
      ⟨formed.whole, formed.wholeDigits, formed.fractionDigits, formed.exponent⟩ rfl
  have signed : Style.literal.upward ≠ .minus := by decide
  have near := Binary.nearest_numeral signed number finite
  rw [ofText?, Numeral.text, String.toList_ofList, read]
  simp only [real, if_true, Option.some.injEq]
  rw [← congrArg Binary.magnitude near]
  rfl

end ShadeTree.Number
