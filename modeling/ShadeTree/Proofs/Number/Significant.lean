import Mathlib.Data.List.DropRight
import ShadeTree.Proofs.Number.Literal

/-!
Significant digits.

Zeros in front of the digits of a numeral say nothing, and zeros behind them only scale it. What is left
is an integer whose first and last digits are no zeros.
-/

namespace ShadeTree.Number

/-! ### Digits -/

theorem digitValue_lt {digit : Char} (isDigit : digit.isDigit) : digitValue digit < 10 := by
  obtain ⟨least, most⟩ := Char.isDigit_iff_toNat.mp isDigit
  have nine : '9'.toNat = '0'.toNat + 9 := rfl
  unfold digitValue
  omega

/-- Only the digit zero counts nothing. -/
theorem digitValue_pos {digit : Char} (isDigit : digit.isDigit) (nonzero : digit ≠ '0') :
    0 < digitValue digit := by
  obtain ⟨least, -⟩ := Char.isDigit_iff_toNat.mp isDigit
  have different : digit.toNat ≠ '0'.toNat := mt Char.toNat_inj.mp nonzero
  unfold digitValue
  omega

theorem digitsValue_singleton (digit : Char) : digitsValue [digit] = digitValue digit :=
  Nat.zero_add _

/-- Digits count less than the power of ten of their number. -/
theorem digitsValue_lt {digits : List Char} (isDigit : ∀ digit ∈ digits, digit.isDigit) :
    digitsValue digits < 10 ^ digits.length := by
  induction digits with
  | nil => exact Nat.one_pos
  | cons digit rest ih =>
      have first := digitValue_lt (isDigit digit (List.mem_cons_self ..))
      have others := ih fun other member => isDigit other (List.mem_cons_of_mem _ member)
      have whole := Nat.mul_le_mul_left (10 ^ rest.length) (Nat.le_of_lt_succ first)
      rw [← List.singleton_append, digitsValue_append, digitsValue_singleton, Nat.pow_eq,
        List.singleton_append, List.length_cons, Nat.pow_succ]
      omega

/-- The first digit tells the size of an integer, if it is no zero. -/
theorem le_digitsValue {digits : List Char} (some : digits ≠ [])
    (isDigit : ∀ digit ∈ digits, digit.isDigit) (first : digits.head some ≠ '0') :
    10 ^ (digits.length - 1) ≤ digitsValue digits := by
  obtain ⟨digit, rest, rfl⟩ := List.exists_cons_of_ne_nil some
  have positive := digitValue_pos (isDigit digit (List.mem_cons_self ..)) first
  have scaled := Nat.le_mul_of_pos_right (10 ^ rest.length) positive
  rw [← List.singleton_append, digitsValue_append, digitsValue_singleton, Nat.pow_eq,
    List.singleton_append, List.length_cons, Nat.add_sub_cancel]
  exact Nat.le_add_right_of_le scaled

/-- The last digit tells whether ten divides an integer. -/
theorem not_ten_dvd_digitsValue {digits : List Char} (some : digits ≠ [])
    (isDigit : ∀ digit ∈ digits, digit.isDigit) (last : digits.getLast some ≠ '0') :
    ¬ 10 ∣ digitsValue digits := by
  have member := isDigit _ (List.getLast_mem some)
  have positive := digitValue_pos member last
  have small := digitValue_lt member
  have ten : Nat.pow 10 1 = 10 := rfl
  rw [← List.dropLast_append_getLast some, digitsValue_append, digitsValue_singleton,
    List.length_singleton, ten]
  omega

/-! ### Without the zeros at both ends -/

def isZeroDigit (digit : Char) : Bool :=
  digit == '0'

/-- Digits without the zeros at both ends. -/
def significantDigits (digits : List Char) : List Char :=
  (digits.dropWhile isZeroDigit).rdropWhile isZeroDigit

/-- A list of zeros is determined by its length. -/
theorem eq_zeros {digits : List Char} (zero : ∀ digit ∈ digits, isZeroDigit digit) :
    digits = Style.zeros digits.length :=
  List.eq_replicate_of_mem fun digit member => beq_iff_eq.mp (zero digit member)

/-- Digits are the significant ones between zeros. -/
theorem significantDigits_spec (digits : List Char) :
    ∃ front back, digits = Style.zeros front ++ (significantDigits digits ++ Style.zeros back) := by
  have front : digits.takeWhile isZeroDigit = Style.zeros (digits.takeWhile isZeroDigit).length :=
    eq_zeros fun _ member => List.mem_takeWhile_imp (p := isZeroDigit) member
  have back : (digits.dropWhile isZeroDigit).rtakeWhile isZeroDigit =
      Style.zeros ((digits.dropWhile isZeroDigit).rtakeWhile isZeroDigit).length :=
    eq_zeros fun _ member => List.mem_rtakeWhile_imp (p := isZeroDigit) member
  refine ⟨(digits.takeWhile isZeroDigit).length,
    ((digits.dropWhile isZeroDigit).rtakeWhile isZeroDigit).length, ?_⟩
  rw [← front, significantDigits, ← back, List.rdropWhile_append_rtakeWhile,
    List.takeWhile_append_dropWhile]

theorem mem_of_mem_significantDigits {digits : List Char} {digit : Char}
    (member : digit ∈ significantDigits digits) : digit ∈ digits :=
  (List.dropWhile_suffix _).subset ((List.rdropWhile_prefix _ _).subset member)

/-- The first significant digit is no zero. -/
theorem head_significantDigits {digits : List Char} (some : significantDigits digits ≠ []) :
    (significantDigits digits).head some ≠ '0' := by
  have leading := List.rdropWhile_prefix isZeroDigit (digits.dropWhile isZeroDigit)
  have first := List.head_dropWhile_not isZeroDigit (leading.ne_nil some)
  rw [← leading.head some] at first
  exact beq_eq_false_iff_ne.mp first

/-- The last significant digit is no zero. -/
theorem getLast_significantDigits {digits : List Char} (some : significantDigits digits ≠ []) :
    (significantDigits digits).getLast some ≠ '0' :=
  mt beq_iff_eq.mpr (List.rdropWhile_last_not _ _ some)

namespace Numeral

variable {numeral : Numeral}

/-- How many significant digits a numeral has. -/
def precision (numeral : Numeral) : Nat :=
  (significantDigits (numeral.whole ++ numeral.fraction)).length

/-- A numeral stands for its significant digits, scaled. -/
theorem absValue_significant (formed : numeral.WellFormed) :
    ∃ (digits : Nat) (exponent : Int), numeral.absValue = digits * 10 ^ exponent ∧
      digits < 10 ^ numeral.precision ∧
      (0 < numeral.precision → 10 ^ (numeral.precision - 1) ≤ digits ∧ ¬ 10 ∣ digits) := by
  obtain ⟨front, back, digits⟩ := significantDigits_spec (numeral.whole ++ numeral.fraction)
  have isDigit : ∀ digit ∈ significantDigits (numeral.whole ++ numeral.fraction), digit.isDigit := by
    intro digit member
    rcases List.mem_append.mp (mem_of_mem_significantDigits member) with whole | fraction
    · exact formed.wholeDigits digit whole
    · exact formed.fractionDigits digit fraction
  have value : digitsValue (numeral.whole ++ numeral.fraction) =
      digitsValue (significantDigits (numeral.whole ++ numeral.fraction)) * Nat.pow 10 back := by
    rw [congrArg digitsValue digits, digitsValue_append, digitsValue_zeros, digitsValue_append,
      digitsValue_zeros, Style.length_zeros, Nat.mul_zero, Nat.zero_add, Nat.add_zero, Nat.mul_comm]
  refine ⟨_, numeral.scaling + back, ?_, digitsValue_lt isDigit, fun positive => ?_⟩
  · have shift := decimal_shift (digitsValue (significantDigits
      (numeral.whole ++ numeral.fraction))) back (numeral.scaling + back)
    rw [add_sub_cancel_right] at shift
    rw [absValue, value, shift]
  · have some := List.ne_nil_of_length_pos positive
    exact ⟨le_digitsValue some isDigit (head_significantDigits some),
      not_ten_dvd_digitsValue some isDigit (getLast_significantDigits some)⟩

end Numeral

end ShadeTree.Number
