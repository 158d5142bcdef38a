import ShadeTree.Number.Quantity
import ShadeTree.Number.Style
import ShadeTree.Proofs.Number.Rounding

/-!
What the numeral of a number is read as.

A numeral stands for its digits times a power of ten. The nearest number to it is the number that it
was written for, in every style.
-/

namespace ShadeTree.Number

theorem digitsValue_eq (digits : List Char) : digitsValue digits = Nat.ofDigitChars 10 digits 0 := rfl

/-- Digits in front count by the power of ten of the digits behind them. -/
theorem digitsValue_append (first second : List Char) :
    digitsValue (first ++ second) =
      Nat.pow 10 second.length * digitsValue first + digitsValue second := by
  rw [digitsValue_eq, Nat.ofDigitChars_append, Nat.ofDigitChars_eq_ofDigitChars_zero]
  rfl

/-- The digits of a number are read back as it. -/
theorem digitsValue_decimalDigits (number : Nat) : digitsValue (decimalDigits number) = number :=
  Nat.ofDigitChars_toDigits (by decide) (by decide)

theorem digitsValue_zeros (count : Nat) : digitsValue (Style.zeros count) = 0 := by
  rw [digitsValue_eq, Style.zeros, Nat.ofDigitChars_replicate_zero, Nat.mul_zero]

theorem pow_ten_pos (exponent : Nat) : 0 < Nat.pow 10 exponent :=
  Nat.pow_pos (by decide)

namespace Format

variable {format : Format} {first second numerator denominator : Nat}

/-- Rounding a quotient does not depend on a common factor. -/
theorem roundQuotient_mul {factor : Nat} (positive : 0 < factor) (numerator denominator : Nat) :
    roundQuotient (factor * numerator) (factor * denominator) =
      roundQuotient numerator denominator := by
  unfold roundQuotient
  dsimp only
  rw [Nat.mul_div_mul_left _ _ positive, Nat.mul_mod_mul_left, Nat.mul_left_comm]
  simp only [Nat.mul_lt_mul_left positive]

/-- Rounding a rational does not depend on how it is reduced. -/
theorem round_mul {factor : Nat} (positive : 0 < factor) (numerator denominator : Nat) :
    format.round (factor * numerator) (factor * denominator) = format.round numerator denominator := by
  unfold round
  dsimp only
  rw [Nat.mul_assoc, Nat.mul_assoc, Nat.mul_div_mul_left _ _ positive, roundQuotient_mul positive]

/-- Equal fractions are rounded to the same number. -/
theorem round_congr (secondPositive : 0 < second) (positive : 0 < denominator)
    (same : first * denominator = numerator * second) :
    format.round first second = format.round numerator denominator := by
  calc
    format.round first second = format.round (denominator * first) (denominator * second) :=
      (round_mul positive _ _).symm
    _ = format.round (second * numerator) (second * denominator) := by
      rw [Nat.mul_comm denominator first, same, Nat.mul_comm numerator, Nat.mul_comm denominator]
    _ = format.round numerator denominator := round_mul secondPositive _ _

theorem round_zero (format : Format) (denominator : Nat) : format.round 0 denominator = 0 := by
  simp [round, roundQuotient]

/-- The magnitude nearest to `digits * 10 ^ exponent`. -/
def roundDecimal (format : Format) (digits : Nat) (exponent : Int) : Nat :=
  format.round (digits * Nat.pow 10 exponent.toNat) (Nat.pow 10 (-exponent).toNat)

/-- Zeros at the end of the digits make up for a lower exponent. -/
theorem roundDecimal_shift (digits count : Nat) (exponent : Int) :
    format.roundDecimal (digits * Nat.pow 10 count) (exponent - count) =
      format.roundDecimal digits exponent := by
  have pow (left right : Nat) : Nat.pow 10 left * Nat.pow 10 right = Nat.pow 10 (left + right) :=
    (Nat.pow_add 10 left right).symm
  apply round_congr (pow_ten_pos _) (pow_ten_pos _)
  rw [Nat.mul_assoc, Nat.mul_assoc, Nat.mul_assoc, pow, pow, pow]
  congr 2
  omega

end Format

namespace Numeral

/-- The power of ten by which the digits are scaled. -/
def scaling (numeral : Numeral) : Int :=
  exponentValue numeral.exponent - numeral.fraction.length

/-- The number of a format nearest to a numeral. -/
def nearest (format : Format) (numeral : Numeral) : Binary format :=
  ⟨numeral.negative,
    format.roundDecimal (digitsValue (numeral.whole ++ numeral.fraction)) numeral.scaling⟩

end Numeral

namespace Style

variable {format : Format} {style : Style}

/-- A written exponent has its value. -/
theorem exponentValue_exponentParts (signed : style.upward ≠ .minus) (exponent : Int) :
    Numeral.exponentValue (some (style.exponentParts exponent)) = exponent := by
  unfold exponentParts
  split
  · rw [Numeral.exponentValue, digitsValue_decimalDigits]
    omega
  · cases sign : style.upward with
    | minus => exact absurd sign signed
    | absent | plus =>
        rw [Numeral.exponentValue, digitsValue_decimalDigits]
        omega

theorem length_zeros (count : Nat) : (zeros count).length = count :=
  List.length_replicate

/-- The fraction of a whole number is one zero, or empty. -/
theorem wholeFraction_eq (style : Style) :
    style.wholeFraction = zeros (if style.marksWhole then 1 else 0) := by
  unfold wholeFraction
  split
  · rfl
  · rfl

theorem numeral_sign (style : Style) (negative : Bool) (decimal : Decimal) :
    (style.numeral negative decimal).negative = negative := by
  unfold numeral
  dsimp only
  split
  · split
    · rfl
    · split
      · rfl
      · rfl
  · rfl

/-- The digits of a numeral are those of the decimal. Only a whole number without an exponent has
zeros behind them. -/
theorem numeral_digits (signed : style.upward ≠ .minus) (negative : Bool) (decimal : Decimal) :
    let numeral := style.numeral negative decimal
    ∃ count : Nat,
      digitsValue (numeral.whole ++ numeral.fraction) = decimal.digits * Nat.pow 10 count ∧
      numeral.scaling = decimal.exponent - count ∧
      (count = 0 ∨ 0 ≤ decimal.exponent ∧
        style.positional ((decimalDigits decimal.digits).length + decimal.exponent) ∧
        count = decimal.exponent.toNat + if style.marksWhole then 1 else 0) := by
  have value := digitsValue_decimalDigits decimal.digits
  have nonempty : 0 < (decimalDigits decimal.digits).length := Nat.length_toDigits_pos
  unfold numeral
  dsimp only
  generalize decimalDigits decimal.digits = digits at *
  split
  · rename_i positional
    split
    · -- all digits stand behind the point
      have scaling : (0 : Int) - (zeros (-(digits.length + decimal.exponent)).toNat ++ digits).length =
          decimal.exponent := by
        rw [List.length_append, length_zeros]
        omega
      have zero : digitsValue ['0'] = 0 := rfl
      refine ⟨0, ?_, ?_, .inl rfl⟩
      · rw [digitsValue_append, digitsValue_append, digitsValue_zeros, zero, value]
        simp
      · rw [Numeral.scaling, Numeral.exponentValue, scaling, Int.natCast_zero, Int.sub_zero]
    · split
      · -- all digits stand before the point
        have digitsEq : digits ++ zeros (digits.length + decimal.exponent - digits.length).toNat ++
            style.wholeFraction =
            digits ++ zeros (decimal.exponent.toNat + if style.marksWhole then 1 else 0) := by
          rw [wholeFraction_eq, List.append_assoc, zeros, zeros, List.replicate_append_replicate]
          congr 3
          omega
        have scaling : (0 : Int) - style.wholeFraction.length =
            decimal.exponent - (decimal.exponent.toNat + if style.marksWhole then 1 else 0 : Nat) := by
          rw [wholeFraction_eq, length_zeros]
          omega
        refine ⟨decimal.exponent.toNat + if style.marksWhole then 1 else 0, ?_, ?_,
          .inr ⟨by omega, positional, rfl⟩⟩
        · rw [digitsEq, digitsValue_append, digitsValue_zeros, value, length_zeros, Nat.add_zero,
            Nat.mul_comm]
        · rw [Numeral.scaling, Numeral.exponentValue, scaling]
      · -- the point stands between two digits
        have scaling : (0 : Int) - (digits.drop (digits.length + decimal.exponent).toNat).length =
            decimal.exponent := by
          rw [List.length_drop]
          omega
        refine ⟨0, ?_, ?_, .inl rfl⟩
        · rw [List.take_append_drop, value, Nat.pow_eq, Nat.pow_zero, Nat.mul_one]
        · rw [Numeral.scaling, Numeral.exponentValue, scaling, Int.natCast_zero, Int.sub_zero]
  · -- one digit before the point, and an exponent
    have scaling : digits.length + decimal.exponent - 1 - (digits.drop 1).length =
        decimal.exponent := by
      rw [List.length_drop]
      omega
    refine ⟨0, ?_, ?_, .inl rfl⟩
    · rw [List.take_append_drop, value, Nat.pow_eq, Nat.pow_zero, Nat.mul_one]
    · rw [Numeral.scaling, exponentValue_exponentParts signed, scaling, Int.natCast_zero,
        Int.sub_zero]

/-- However the point is placed, the numeral stands for the decimal. -/
theorem nearest_numeral (signed : style.upward ≠ .minus) (negative : Bool) (decimal : Decimal) :
    (style.numeral negative decimal).nearest format =
      ⟨negative, format.roundDecimal decimal.digits decimal.exponent⟩ := by
  obtain ⟨count, digits, scaling, -⟩ := numeral_digits signed negative decimal
  rw [Numeral.nearest, digits, scaling, Format.roundDecimal_shift, numeral_sign]

end Style

namespace Binary

variable {format : Format}

/-- The nearest number to the numeral of a finite number is that number, the sign of zero included. -/
theorem nearest_numeral {style : Style} (signed : style.upward ≠ .minus) (number : Binary format)
    (finite : number.isFinite) : (number.numeral style).nearest format = number := by
  unfold numeral
  by_cases zero : number.magnitude = 0
  · rw [isZero, zero, if_pos (beq_self_eq_true 0), Numeral.nearest, Style.wholeFraction_eq,
      digitsValue_append, digitsValue_zeros]
    have nothing : digitsValue ['0'] = 0 := rfl
    rw [nothing, Nat.mul_zero, Format.roundDecimal, Nat.zero_mul, Format.round_zero, ← zero]
  · have positive : 0 < number.magnitude := Nat.pos_of_ne_zero zero
    have rounded := round_shortest style.tie positive (of_decide_eq_true finite)
    rw [isZero, beq_false_of_ne zero, if_neg Bool.false_ne_true, Style.nearest_numeral signed,
      Format.roundDecimal, rounded]

end Binary

end ShadeTree.Number
