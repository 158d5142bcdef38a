import ShadeTree.Proofs.Number.Nearest
import ShadeTree.Proofs.Number.Numeral

/-!
Literals of shaders.

A literal is a real number and never an integer, by its form alone. The number nearest to it is the
number that it was written for, bit for bit; numbers that are not finite have no literal.
-/

namespace ShadeTree.Number

/-! ### The form of a literal -/

/-- Digits, at least one. -/
def IsDigits (text : List Char) : Prop :=
  text ≠ [] ∧ ∀ digit ∈ text, digit.isDigit

/-- Numbers without a sign that cannot be integers: a point between digits, or an exponent behind one
digit and perhaps a fraction. -/
inductive IsReal : List Char → Prop
  | positional {whole fraction : List Char} (first : IsDigits whole) (second : IsDigits fraction) :
    IsReal (whole ++ '.' :: fraction)
  | power {digit : Char} {sign exponent : List Char} (first : digit.isDigit)
    (signed : sign = [] ∨ sign = ['-']) (second : IsDigits exponent) :
    IsReal (digit :: 'e' :: sign ++ exponent)
  | scientific {digit : Char} {fraction sign exponent : List Char} (first : digit.isDigit)
    (second : IsDigits fraction) (signed : sign = [] ∨ sign = ['-']) (third : IsDigits exponent) :
    IsReal (digit :: '.' :: fraction ++ 'e' :: sign ++ exponent)

/-- A point or an exponent is no digit. -/
theorem IsReal.not_digits {text : List Char} (real : IsReal text) : ¬ IsDigits text := by
  intro digits
  cases real with
  | positional => exact absurd (digits.2 '.' (by simp)) (by decide)
  | power => exact absurd (digits.2 'e' (by simp)) (by decide)
  | scientific => exact absurd (digits.2 'e' (by simp)) (by decide)

namespace Style

variable {style : Style}

/-- A fraction without an exponent, or an exponent behind a single digit. -/
theorem numeral_shape (marks : style.marksWhole) (negative : Bool) (decimal : Decimal) :
    let numeral := style.numeral negative decimal
    (numeral.fraction ≠ [] ∧ numeral.exponent = none) ∨
      (numeral.whole.length = 1 ∧ ∃ sign exponent, numeral.exponent = some (sign, exponent) ∧
        (sign = .minus ∨ sign = style.upward)) := by
  have real := numeral_isReal marks negative decimal
  have some : decimalDigits decimal.digits ≠ [] := Nat.toDigits_ne_nil
  unfold numeral at real ⊢
  dsimp only at real ⊢
  generalize decimalDigits decimal.digits = digits at *
  split
  · rename_i positional
    rw [if_pos positional] at real
    left
    split
    · simp [some]
    · split
      · simp [wholeFraction, marks]
      · rename_i small large
        rw [if_neg small, if_neg large] at real
        simp [Numeral.isReal] at real
        simpa using real.2
  · right
    have positive := List.length_pos_iff.mpr some
    refine ⟨by rw [List.length_take]; omega, _, _, rfl, ?_⟩
    split
    · exact .inl rfl
    · exact .inr rfl

end Style

namespace Numeral

variable {numeral : Numeral}

theorem WellFormed.isDigits_whole (formed : numeral.WellFormed) : IsDigits numeral.whole :=
  ⟨formed.whole, formed.wholeDigits⟩

/-- The text of a numeral of one of the two shapes. -/
theorem isReal_toList (formed : numeral.WellFormed)
    (shape : (numeral.fraction ≠ [] ∧ numeral.exponent = none) ∨
      (numeral.whole.length = 1 ∧ ∃ sign exponent, numeral.exponent = some (sign, exponent) ∧
        (sign = .minus ∨ sign = .absent))) :
    IsReal numeral.unsigned.toList := by
  rw [toList_eq]
  simp only [unsigned, Bool.false_eq_true, if_false, List.nil_append]
  rcases shape with ⟨some, none⟩ | ⟨single, sign, exponent, parts, sort⟩
  · have positional := IsReal.positional formed.isDigits_whole ⟨some, formed.fractionDigits⟩
    simpa [none, exponentText, some] using positional
  · obtain ⟨digit, whole⟩ := List.length_eq_one_iff.mp single
    have isDigit : digit.isDigit := formed.wholeDigits digit (by simp [whole])
    have exponentDigits : IsDigits exponent := formed.exponent sign exponent parts
    have signed : sign.toList = [] ∨ sign.toList = ['-'] := by
      rcases sort with rfl | rfl
      · exact .inr rfl
      · exact .inl rfl
    rw [whole, parts, exponentText]
    by_cases none : numeral.fraction = []
    · simpa [none] using IsReal.power isDigit signed exponentDigits
    · simpa [none] using IsReal.scientific isDigit ⟨none, formed.fractionDigits⟩ signed exponentDigits

/-- A numeral is its sign, if it has one, in front of the numeral without it. -/
theorem toList_unsigned (numeral : Numeral) :
    numeral.toList = (if numeral.negative then ['-'] else []) ++ numeral.unsigned.toList := by
  rw [toList_eq, toList_eq]
  simp [unsigned]

/-- The numeral that a text is, if it is one. -/
def read? : List Char → Option Numeral
  | '-' :: rest => (ofCharacters? rest).map fun numeral => { numeral with negative := true }
  | characters => ofCharacters? characters

/-- A numeral can be read off its text, its sign included. -/
theorem read_toList (formed : numeral.WellFormed) : read? numeral.toList = some numeral := by
  have unsigned : ofCharacters? numeral.unsigned.toList = some numeral.unsigned :=
    ofCharacters_toList
      ⟨formed.whole, formed.wholeDigits, formed.fractionDigits, formed.exponent⟩ rfl
  rw [toList_unsigned]
  cases sign : numeral.negative with
  | true =>
      change (ofCharacters? numeral.unsigned.toList).map _ = _
      rw [unsigned, Option.map_some, Numeral.unsigned, ← sign]
  | false =>
      obtain ⟨first, rest, digits⟩ := List.exists_cons_of_ne_nil formed.whole
      have digit := formed.wholeDigits first (by simp [digits])
      simp only [Bool.false_eq_true, if_false, List.nil_append]
      unfold read?
      split
      · -- no digit is a minus sign
        rename_i minus
        rw [toList_eq] at minus
        simp only [Numeral.unsigned, Bool.false_eq_true, if_false, List.nil_append, digits] at minus
        cases minus
        cases digit
      · rw [unsigned, Numeral.unsigned, ← sign]

/-- What a numeral stands for, its sign left aside. -/
def absValue (numeral : Numeral) : ℚ :=
  digitsValue (numeral.whole ++ numeral.fraction) * 10 ^ numeral.scaling

end Numeral

/-- The number has the sign of the numeral, also if both are zero, and no other number is nearer. -/
def Binary.IsNearest {format : Format} (number : Binary format) (numeral : Numeral) : Prop :=
  number.negative = numeral.negative ∧ format.Nearest numeral.absValue number.magnitude

/-- A power of any exponent as a fraction of two powers. -/
theorem cast_zpow (base : Nat) (exponent : Int) :
    ((Nat.pow base exponent.toNat : Nat) / (Nat.pow base (-exponent).toNat : Nat) : ℚ) =
      base ^ exponent := by
  have cast (count : Nat) : ((Nat.pow base count : Nat) : ℚ) = base ^ count := Nat.cast_pow base count
  rw [cast, cast]
  obtain ⟨count, rfl | rfl⟩ := exponent.eq_nat_or_neg
  · simp
  · simp

theorem cast_decimal (digits : Nat) (exponent : Int) :
    ((digits * Nat.pow 10 exponent.toNat : Nat) / (Nat.pow 10 (-exponent).toNat : Nat) : ℚ) =
      digits * 10 ^ exponent := by
  have power := cast_zpow 10 exponent
  rw [Nat.cast_mul, mul_div_assoc, power, Nat.cast_ofNat]

/-- Zeros behind the digits stand for a greater power of ten. -/
theorem decimal_shift (digits count : Nat) (exponent : Int) :
    ((digits * Nat.pow 10 count : Nat) * 10 ^ (exponent - count) : ℚ) = digits * 10 ^ exponent := by
  rw [Nat.cast_mul, Nat.pow_eq, Nat.cast_pow, zpow_sub₀ (by norm_num), zpow_natCast]
  push_cast
  field_simp

/-- The numeral of a decimal stands for the decimal. -/
theorem Style.absValue_numeral {style : Style} (signed : style.upward ≠ .minus) (negative : Bool)
    (decimal : Decimal) :
    (style.numeral negative decimal).absValue = decimal.digits * 10 ^ decimal.exponent := by
  obtain ⟨count, digits, scaling, -⟩ := numeral_digits signed negative decimal
  rw [Numeral.absValue, digits, scaling, decimal_shift]

/-- A decimal is rounded to the number nearest to it. -/
theorem Format.roundDecimal_nearest (format : Format) (wide : 0 < format.fractionBits) (digits : Nat)
    (exponent : Int) :
    format.Nearest (digits * 10 ^ exponent) (format.roundDecimal digits exponent) := by
  have nearest := format.round_nearest wide (pow_ten_pos (-exponent).toNat)
    (digits * Nat.pow 10 exponent.toNat)
  rwa [cast_decimal] at nearest

namespace Binary

variable {format : Format} {number other : Binary format} {numeral : Numeral}

/-- Only one number is nearest to a numeral. -/
theorem IsNearest.unique (first : number.IsNearest numeral) (second : other.IsNearest numeral) :
    number = other := by
  obtain ⟨negative, magnitude⟩ := number
  obtain ⟨otherNegative, otherMagnitude⟩ := other
  obtain ⟨sign, nearest⟩ := first
  obtain ⟨otherSign, otherNearest⟩ := second
  exact Binary.mk.injEq .. ▸ ⟨sign.trans otherSign.symm, nearest.unique otherNearest⟩

/-- A finite number is nearest to its numeral. -/
theorem isNearest_numeral (wide : 0 < format.fractionBits) {style : Style}
    (signed : style.upward ≠ .minus) (finite : number.isFinite) :
    number.IsNearest (number.numeral style) := by
  have read := nearest_numeral signed number finite
  refine ⟨(number.numeral_negative style).symm, ?_⟩
  rw [← congrArg Binary.magnitude read]
  exact format.roundDecimal_nearest wide _ _

/-- The literal of a number has a decimal point or an exponent. -/
theorem isReal_numeral (number : Binary format) :
    IsReal (number.numeral .literal).unsigned.toList := by
  apply Numeral.isReal_toList (number.numeral_wellFormed .literal)
  unfold numeral
  split
  · exact .inl ⟨List.cons_ne_nil _ _, rfl⟩
  · exact Style.numeral_shape rfl _ _

end Binary

namespace Single

/-- Different words are different numbers. -/
theorem ofWord_injective : Function.Injective ofWord := by
  intro first second equal
  have sign : (0x80000000 ≤ first.toNat) = (0x80000000 ≤ second.toNat) := by
    simpa [ofWord] using congrArg Binary.negative equal
  have rest : first.toNat % 0x80000000 = second.toNat % 0x80000000 :=
    congrArg Binary.magnitude equal
  have firstBound := first.toNat_lt
  have secondBound := second.toNat_lt
  apply UInt32.toNat_inj.mp
  by_cases high : 0x80000000 ≤ first.toNat
  · have other := sign ▸ high
    omega
  · have other := sign ▸ high
    omega

/-- A pattern with all bits of its exponent set stands for infinity or for no number. -/
theorem isFinite_ofWord (word : UInt32) :
    (ofWord word).isFinite ↔ word.toNat / 2 ^ 23 % 2 ^ 8 ≠ 255 := by
  have infinity : Format.single.infinity = 255 * 2 ^ 23 := rfl
  simp only [Binary.isFinite, ofWord, infinity, decide_eq_true_eq]
  omega

/-- A literal is a real number with the sign of the pattern in front. The pattern is the only one that
is nearest to it, so that reading the literal gives the pattern back bit for bit. Exactly the
patterns that are no finite numbers have no literal. -/
theorem literal_exact (word : UInt32) :
    ((ofWord word).literal? = none ↔ word.toNat / 2 ^ 23 % 2 ^ 8 = 255) ∧
      ∀ text, (ofWord word).literal? = some text →
        (∃ body, IsReal body ∧ ¬ IsDigits body ∧
          text.toList = (if word.toNat / 2 ^ 31 = 1 then ['-'] else []) ++ body) ∧
        ∃ numeral, Numeral.read? text.toList = some numeral ∧
          ∀ other : UInt32, (ofWord other).IsNearest numeral ↔ other = word := by
  have finite := isFinite_ofWord word
  constructor
  · unfold literal?
    split
    · rename_i shown
      simpa using finite.mp shown
    · rename_i shown
      simpa using mt finite.mpr shown
  · intro text written
    unfold literal? at written
    split at written
    · rename_i shown
      cases written
      rw [Numeral.text, String.toList_ofList]
      constructor
      · have real := (ofWord word).isReal_numeral
        refine ⟨_, real, real.not_digits, ?_⟩
        have sign : (ofWord word).negative = true ↔ word.toNat / 2 ^ 31 = 1 := by
          have bound := word.toNat_lt
          simp only [ofWord, decide_eq_true_eq]
          omega
        rw [Numeral.toList_unsigned, Binary.numeral_negative]
        simp only [sign]
      · have nearest : (ofWord word).IsNearest ((ofWord word).numeral .literal) :=
          Binary.isNearest_numeral (by decide) (by decide) shown
        refine ⟨_, Numeral.read_toList ((ofWord word).numeral_wellFormed .literal), fun other => ?_⟩
        constructor
        · intro also
          exact ofWord_injective (also.unique nearest)
        · rintro rfl
          exact nearest
    · cases written

/-- The least positive number has a literal with an exponent, and nothing else is nearest to it. -/
theorem literal_exact_least : (ofWord 1).literal? = some "1e-45" ∧
    (∃ body, IsReal body ∧ ¬ IsDigits body ∧ "1e-45".toList = [] ++ body) ∧
      ∃ numeral, Numeral.read? "1e-45".toList = some numeral ∧
        ∀ other : UInt32, (ofWord other).IsNearest numeral ↔ other = 1 := by
  have written : (ofWord 1).literal? = some "1e-45" := by decide +kernel
  exact ⟨written, (literal_exact 1).2 _ written⟩

end Single

end ShadeTree.Number
