import ShadeTree.Number.Quantity
import ShadeTree.Proofs.Number.Nearest

/-!
How exact the reading of a decimal is.

A decimal is read through two numbers of double precision, its digits and a power of ten. As long as
the digits are exact, the result is off by few units; it is exact if the power of ten is and if the
decimal is a number of double precision.
-/

namespace ShadeTree.Number

theorem pow_two_pos (exponent : Nat) : 0 < Nat.pow 2 exponent :=
  Nat.two_pow_pos exponent

namespace Format

variable {format : Format} {numerator denominator scale units : Nat}

/-- Whatever has no more digits than a significand is the value of a magnitude. -/
theorem exists_value (fits : units < 2 * Nat.pow 2 format.fractionBits) (scale : Nat) :
    ∃ magnitude, format.value magnitude = units * format.unit scale := by
  induction scale generalizing units with
  | zero => exact ⟨_, format.value_eq (.inl rfl) fits.le⟩
  | succ scale ih =>
      by_cases normal : Nat.pow 2 format.fractionBits ≤ units
      · exact ⟨_, format.value_eq (.inr normal) fits.le⟩
      · obtain ⟨magnitude, value⟩ := ih (show 2 * units < 2 * Nat.pow 2 format.fractionBits by omega)
        refine ⟨magnitude, ?_⟩
        rw [value, unit_succ]
        push_cast
        ring

/-- A fraction that is such a number is rounded to itself. -/
theorem value_round (wide : 0 < format.fractionBits) (positive : 0 < denominator)
    (fits : units < 2 * Nat.pow 2 format.fractionBits)
    (shown : (numerator / denominator : ℚ) = units * format.unit scale)
    (bounded : (numerator / denominator : ℚ) ≤ format.value format.infinity) :
    format.value (format.round numerator denominator) = numerator / denominator := by
  obtain ⟨magnitude, value⟩ := exists_value fits scale
  rw [shown, ← value] at bounded
  rw [round_of_value wide positive (format.value_strictMono.le_iff_le.mp bounded)
    (shown.trans value.symm), shown, value]

/-- The error of rounding is at most half a unit of the last digit. -/
theorem round_error (wide : 0 < format.fractionBits) (positive : 0 < denominator)
    (normal : 2 ^ format.fractionBits * format.unit 0 ≤ (numerator / denominator : ℚ))
    (bounded : (numerator / denominator : ℚ) ≤ format.value format.infinity) :
    |format.value (format.round numerator denominator) - numerator / denominator| *
      (2 * 2 ^ format.fractionBits) ≤ numerator / denominator := by
  obtain ⟨scale, units, rounded, shown⟩ := format.round_spec positive numerator
  have step := format.unit_pos scale
  have reached : 2 ^ format.fractionBits * format.unit scale ≤ (numerator / denominator : ℚ) := by
    rcases rounded.normal with rfl | reached
    · exact normal
    · exact reached
  have finite : scale * Nat.pow 2 format.fractionBits + units ≤ format.infinity := by
    by_contra infinite
    obtain ⟨last, next⟩ : ∃ last, last + 1 = scale * Nat.pow 2 format.fractionBits + units :=
      ⟨scale * Nat.pow 2 format.fractionBits + units - 1, by omega⟩
    have above := (rounded.above wide _ next).1
    have order := format.value_strictMono.monotone (show format.infinity ≤ last by omega)
    have less := format.value_strictMono (Nat.lt_succ_self last)
    rw [middle] at above
    linarith
  have error : |format.value (format.round numerator denominator) - numerator / denominator| ≤
      format.unit scale / 2 := by
    rw [shown, Nat.min_eq_left finite, rounded.value_eq, abs_le]
    have low := rounded.low
    have high := rounded.high
    constructor
    · linarith
    · linarith
  have powerPositive : (0 : ℚ) < 2 ^ format.fractionBits := by positivity
  calc
    |format.value (format.round numerator denominator) - numerator / denominator| *
        (2 * 2 ^ format.fractionBits) ≤ format.unit scale / 2 * (2 * 2 ^ format.fractionBits) :=
      mul_le_mul_of_nonneg_right error (by positivity)
    _ = 2 ^ format.fractionBits * format.unit scale := by ring
    _ ≤ numerator / denominator := reached

/-- Units above the bias are powers of two. -/
theorem unit_bias_add (format : Format) (scale : Nat) : format.unit (format.bias + scale) = 2 ^ scale := by
  rw [unit, pow_add]
  field_simp

/-- Infinity stands for the power of two behind the finite numbers. -/
theorem value_infinity (format : Format) (above : Nat)
    (last : format.infinity = (format.bias + above + 1) * Nat.pow 2 format.fractionBits) :
    format.value format.infinity = 2 ^ (format.fractionBits + above) := by
  rw [last, Nat.add_mul, Nat.one_mul, format.value_eq (.inr le_rfl) (by omega), unit_bias_add,
    cast_pow_two, pow_add]

end Format

namespace Double

/-- The bound of the finite doubles. -/
theorem value_infinity : Format.double.value Format.double.infinity = 2 ^ 1024 :=
  Format.double.value_infinity 972 rfl

/-- The least double with all bits of precision. -/
theorem least_normal :
    2 ^ Format.double.fractionBits * Format.double.unit 0 = (1 / 2 ^ 1022 : ℚ) := by
  have bias : Format.double.bias = 52 + 1022 := rfl
  have bits : Format.double.fractionBits = 52 := rfl
  rw [Format.unit, bias, bits, pow_add]
  field_simp

/-- A fraction well within the range is rounded with a relative error of at most `2 ^ -53`. -/
theorem round_bounds {numerator denominator : Nat} (positive : 0 < denominator)
    (low : (1 / 2 ^ 1000 : ℚ) ≤ numerator / denominator)
    (high : (numerator / denominator : ℚ) ≤ 2 ^ 1000) :
    (1 - 1 / 2 ^ 53) * (numerator / denominator : ℚ) ≤
        Format.double.value (Format.double.round numerator denominator) ∧
      Format.double.value (Format.double.round numerator denominator) ≤
        (1 + 1 / 2 ^ 53) * (numerator / denominator : ℚ) := by
  have normal : 2 ^ Format.double.fractionBits * Format.double.unit 0 ≤
      (numerator / denominator : ℚ) := by
    rw [least_normal]
    apply le_trans _ low
    exact one_div_le_one_div_of_le (by positivity) (pow_le_pow_right₀ (by norm_num) (by norm_num))
  have bounded : (numerator / denominator : ℚ) ≤ Format.double.value Format.double.infinity := by
    rw [value_infinity]
    exact high.trans (pow_le_pow_right₀ (by norm_num) (by norm_num))
  have error := Format.round_error (by decide) positive normal bounded
  have bits : (2 * 2 ^ Format.double.fractionBits : ℚ) = 2 ^ 53 := by
    rw [show Format.double.fractionBits = 52 from rfl, ← pow_succ']
  rw [bits, ← le_div_iff₀ (by positivity), abs_le] at error
  constructor
  · linarith [error.1]
  · linarith [error.2]

/-- A double as a count of the least unit. -/
theorem value_exact (magnitude : Nat) :
    (exact magnitude : ℚ) = Format.double.value magnitude * 2 ^ Format.double.bias := by
  rw [exact, Format.value, Format.unit, Nat.cast_mul, cast_pow_two]
  field_simp

/-- A whole number whose digits fit but for twos is exact. -/
theorem value_whole {units scale : Nat} (fits : units < 2 ^ 53)
    (bounded : (units * 2 ^ scale : ℚ) ≤ 2 ^ 1000) :
    Format.double.value (Format.double.round (units * 2 ^ scale) 1) = units * 2 ^ scale := by
  have shown : ((units * 2 ^ scale : Nat) / (1 : Nat) : ℚ) =
      units * Format.double.unit (Format.double.bias + scale) := by
    rw [Format.unit_bias_add]
    push_cast
    ring
  have whole : ((units * 2 ^ scale : Nat) / (1 : Nat) : ℚ) = units * 2 ^ scale := by
    push_cast
    ring
  rw [← whole]
  apply Format.value_round (by decide) (by decide) fits shown
  rw [value_infinity, whole]
  exact bounded.trans (pow_le_pow_right₀ (by norm_num) (by norm_num))

/-- The powers of ten in the table are far below the bound of the doubles. -/
theorem ten_pow_le {exponent : Nat} (small : exponent ≤ 300) : (10 ^ exponent : ℚ) ≤ 2 ^ 1000 := by
  have powers : 10 ^ 300 ≤ 2 ^ 1000 := by decide +kernel
  calc
    (10 ^ exponent : ℚ) ≤ 10 ^ 300 := pow_le_pow_right₀ (by norm_num) small
    _ ≤ 2 ^ 1000 := by exact_mod_cast powers

/-- A power of ten in the table has a relative error of half a unit in the last place at most. -/
theorem tenPower_bounds {exponent : Nat} (small : exponent ≤ 300) :
    (1 - 1 / 2 ^ 53) * (10 ^ exponent : ℚ) ≤ Format.double.value (tenPower exponent) ∧
      Format.double.value (tenPower exponent) ≤ (1 + 1 / 2 ^ 53) * (10 ^ exponent : ℚ) := by
  have cast : ((Nat.pow 10 exponent : Nat) / (1 : Nat) : ℚ) = 10 ^ exponent := by
    rw [Nat.cast_one, div_one]
    exact Nat.cast_pow 10 exponent
  have low : (1 / 2 ^ 1000 : ℚ) ≤ (Nat.pow 10 exponent : Nat) / (1 : Nat) := by
    rw [cast]
    have one : (1 : ℚ) ≤ 10 ^ exponent := one_le_pow₀ (by norm_num)
    apply le_trans _ one
    exact div_le_one_of_le₀ (one_le_pow₀ (by norm_num)) (by positivity)
  have bounds := round_bounds (by decide) low (by rw [cast]; exact ten_pow_le small)
  rwa [cast] at bounds

/-- Up to 22 the odd part of a power of ten fits into a significand. -/
theorem tenPower_exact {exponent : Nat} (small : exponent ≤ 22) :
    Format.double.value (tenPower exponent) = 10 ^ exponent := by
  have fits : 5 ^ exponent < 2 ^ 53 :=
    lt_of_le_of_lt (Nat.pow_le_pow_right (by decide) small) (by decide)
  have split : Nat.pow 10 exponent = 5 ^ exponent * 2 ^ exponent := Nat.mul_pow 5 2 exponent
  have cast : ((5 ^ exponent : Nat) * 2 ^ exponent : ℚ) = 10 ^ exponent := by
    rw [Nat.cast_pow, ← mul_pow]
    norm_num
  have bounded : ((5 ^ exponent : Nat) * 2 ^ exponent : ℚ) ≤ 2 ^ 1000 := by
    rw [cast]
    exact ten_pow_le (by omega)
  have whole := value_whole fits bounded
  rw [tenPower, split, whole, cast]

/-! ### Quotients and products by a power of ten -/

/-- Two rounding steps, one of the power and one of the result, make at most four units. -/
theorem near_of_close {decimal inexact rounded : ℚ} (positive : 0 < decimal)
    (close : (1 - 2 / 2 ^ 53) * decimal ≤ inexact ∧ inexact ≤ (1 + 2 / 2 ^ 53) * decimal)
    (bounds : (1 - 1 / 2 ^ 53) * inexact ≤ rounded ∧ rounded ≤ (1 + 1 / 2 ^ 53) * inexact) :
    |rounded - decimal| ≤ decimal / 2 ^ 51 := by
  rw [abs_le]
  constructor
  · linarith
  · linarith

/-- What is close to a decimal in the range of single precision is well within that of double
precision. -/
theorem range_of_close {decimal inexact : ℚ}
    (close : (1 - 2 / 2 ^ 53) * decimal ≤ inexact ∧ inexact ≤ (1 + 2 / 2 ^ 53) * decimal)
    (low : 1 / 2 ^ 200 ≤ decimal) (high : decimal ≤ 2 ^ 200) :
    1 / 2 ^ 1000 ≤ inexact ∧ inexact ≤ 2 ^ 1000 := by
  constructor
  · have small : (1 / 2 ^ 1000 : ℚ) ≤ 1 / 2 ^ 201 :=
      one_div_le_one_div_of_le (by positivity) (pow_le_pow_right₀ (by norm_num) (by norm_num))
    exact small.trans (by linarith)
  · have large : (2 ^ 201 : ℚ) ≤ 2 ^ 1000 := pow_le_pow_right₀ (by norm_num) (by norm_num)
    exact le_trans (by linarith) large

variable {magnitude digits exponent : Nat}

/-- The quotient of two doubles is that of their values. -/
theorem quotient_value (whole : Format.double.value magnitude = digits) (other : Nat) :
    (exact magnitude / exact other : ℚ) = digits / Format.double.value other := by
  rw [value_exact, value_exact, whole]
  field_simp

/-- The product of two doubles is that of their values. -/
theorem product_value (whole : Format.double.value magnitude = digits) (other : Nat) :
    ((exact magnitude * exact other : Nat) / (Nat.pow 2 (2 * Format.double.bias) : Nat) : ℚ) =
      digits * Format.double.value other := by
  rw [Nat.cast_mul, value_exact, value_exact, whole, cast_pow_two, two_mul, pow_add]
  field_simp

theorem exact_tenPower_pos (small : exponent ≤ 300) : 0 < exact (tenPower exponent) := by
  have bounds := (tenPower_bounds small).1
  have power : (0 : ℚ) < 10 ^ exponent := by positivity
  have positive : (0 : ℚ) < exact (tenPower exponent) := by
    rw [value_exact]
    have : 0 < Format.double.value (tenPower exponent) := by linarith
    positivity
  exact_mod_cast positive

/-- A quotient by a power of ten is off by the rounding of both steps at most. -/
theorem quotient_near (whole : Format.double.value magnitude = digits) (small : exponent ≤ 300)
    (low : 1 / 2 ^ 200 ≤ (digits / 10 ^ exponent : ℚ))
    (high : (digits / 10 ^ exponent : ℚ) ≤ 2 ^ 200) :
    |Format.double.value (quotient magnitude (tenPower exponent)) - digits / 10 ^ exponent| ≤
      digits / 10 ^ exponent / 2 ^ 51 := by
  obtain ⟨powerLow, powerHigh⟩ := tenPower_bounds small
  have power : (0 : ℚ) < 10 ^ exponent := by positivity
  have positive : (0 : ℚ) < Format.double.value (tenPower exponent) := by linarith
  have shown := quotient_value whole (tenPower exponent)
  have decimalPositive : (0 : ℚ) < digits / 10 ^ exponent := lt_of_lt_of_le (by positivity) low
  have close : (1 - 2 / 2 ^ 53) * (digits / 10 ^ exponent : ℚ) ≤
        digits / Format.double.value (tenPower exponent) ∧
      digits / Format.double.value (tenPower exponent) ≤
        (1 + 2 / 2 ^ 53) * (digits / 10 ^ exponent : ℚ) := by
    have regroup : (digits : ℚ) = digits / 10 ^ exponent * 10 ^ exponent := by field_simp
    generalize (digits / 10 ^ exponent : ℚ) = decimal at *
    rw [regroup, le_div_iff₀ positive, div_le_iff₀ positive]
    constructor
    · nlinarith
    · nlinarith
  have range := range_of_close close low high
  rw [← shown] at close range
  exact near_of_close decimalPositive close
    (round_bounds (exact_tenPower_pos small) range.1 range.2)

/-- A product with a power of ten is off by the rounding of both steps at most. -/
theorem product_near (whole : Format.double.value magnitude = digits) (small : exponent ≤ 300)
    (low : 1 / 2 ^ 200 ≤ (digits * 10 ^ exponent : ℚ))
    (high : (digits * 10 ^ exponent : ℚ) ≤ 2 ^ 200) :
    |Format.double.value (product magnitude (tenPower exponent)) - digits * 10 ^ exponent| ≤
      digits * 10 ^ exponent / 2 ^ 51 := by
  obtain ⟨powerLow, powerHigh⟩ := tenPower_bounds small
  have shown := product_value whole (tenPower exponent)
  have decimalPositive : (0 : ℚ) < digits * 10 ^ exponent := lt_of_lt_of_le (by positivity) low
  have digitsPositive : (0 : ℚ) ≤ digits := by positivity
  have close : (1 - 2 / 2 ^ 53) * (digits * 10 ^ exponent : ℚ) ≤
        digits * Format.double.value (tenPower exponent) ∧
      digits * Format.double.value (tenPower exponent) ≤
        (1 + 2 / 2 ^ 53) * (digits * 10 ^ exponent : ℚ) := by
    have lower := mul_le_mul_of_nonneg_left powerLow digitsPositive
    have upper := mul_le_mul_of_nonneg_left powerHigh digitsPositive
    constructor
    · linarith
    · linarith
  have range := range_of_close close low high
  have scalePositive : 0 < Nat.pow 2 (2 * Format.double.bias) := pow_two_pos _
  rw [← shown] at close range
  exact near_of_close decimalPositive close (round_bounds scalePositive range.1 range.2)

/-- The value of a number in the range of single precision, rounded, is the value. -/
theorem value_round_exact {numerator denominator units scale : Nat} {decimal : ℚ}
    (positive : 0 < denominator) (fits : units < 2 ^ 53)
    (shown : decimal = units * Format.double.unit scale) (high : decimal ≤ 2 ^ 200)
    (fraction : (numerator / denominator : ℚ) = decimal) :
    Format.double.value (Format.double.round numerator denominator) = decimal := by
  rw [← fraction]
  apply Format.value_round (by decide) positive fits (fraction.trans shown)
  rw [value_infinity, fraction]
  exact high.trans (pow_le_pow_right₀ (by norm_num) (by norm_num))

/-- A quotient that is a double is exact when the power of ten is. -/
theorem quotient_exact {units scale : Nat} (whole : Format.double.value magnitude = digits)
    (small : exponent ≤ 22) (fits : units < 2 ^ 53)
    (shown : (digits / 10 ^ exponent : ℚ) = units * Format.double.unit scale)
    (high : (digits / 10 ^ exponent : ℚ) ≤ 2 ^ 200) :
    Format.double.value (quotient magnitude (tenPower exponent)) = digits / 10 ^ exponent := by
  apply value_round_exact (exact_tenPower_pos (by omega)) fits shown high
  rw [quotient_value whole, tenPower_exact small]

/-- A product that is a double is exact when the power of ten is. -/
theorem product_exact {units scale : Nat} (whole : Format.double.value magnitude = digits)
    (small : exponent ≤ 22) (fits : units < 2 ^ 53)
    (shown : (digits * 10 ^ exponent : ℚ) = units * Format.double.unit scale)
    (high : (digits * 10 ^ exponent : ℚ) ≤ 2 ^ 200) :
    Format.double.value (product magnitude (tenPower exponent)) = digits * 10 ^ exponent := by
  apply value_round_exact (pow_two_pos _) fits shown high
  rw [product_value whole, tenPower_exact small]

/-- How a decimal stands in double precision: off by few units; and exact if it fits, provided that its
power of ten is exact as well. -/
structure Stands (decimal : ℚ) (power : Int) (magnitude : Nat) : Prop where
  near : |Format.double.value magnitude - decimal| ≤ decimal / 2 ^ 51
  exact : power.natAbs ≤ 22 → ∀ units scale : Nat, units < 2 ^ 53 →
    decimal = units * Format.double.unit scale → Format.double.value magnitude = decimal

/-- Scaling gives a number if the digits are exact and the decimal is in the range of single
precision. -/
theorem scaled_stands (power : Int) {units scale : Nat} (fits : units < 2 ^ 53)
    (digitsEq : digits = units * 2 ^ scale) (few : digits < wordLimit) (small : power.natAbs ≤ 300)
    (low : 1 / 2 ^ 200 ≤ (digits * 10 ^ power : ℚ)) (high : (digits * 10 ^ power : ℚ) ≤ 2 ^ 200) :
    ∃ magnitude, Numeral.scaled? digits power = some magnitude ∧
      Stands (digits * 10 ^ power) power magnitude := by
  have whole : Format.double.value (Format.double.round digits 1) = digits := by
    have cast : (digits : ℚ) = units * 2 ^ scale := by exact_mod_cast digitsEq
    have limit : (digits : ℚ) ≤ 2 ^ 64 := by exact_mod_cast few.le
    rw [cast] at limit ⊢
    rw [digitsEq]
    exact value_whole fits (limit.trans (pow_le_pow_right₀ (by norm_num) (by norm_num)))
  unfold Numeral.scaled?
  dsimp only
  rcases lt_or_ge power 0 with negative | positive
  · obtain ⟨count, rfl⟩ : ∃ count : Nat, power = -count := ⟨power.natAbs, by omega⟩
    rw [Int.natAbs_neg, Int.natAbs_natCast] at small
    rw [if_pos negative, Int.natAbs_neg, Int.natAbs_natCast, Numeral.shrink, if_pos (by
      unfold Numeral.greatestPower
      omega)]
    have shown : (digits * 10 ^ (-count : Int) : ℚ) = digits / 10 ^ count := by
      rw [zpow_neg, zpow_natCast, div_eq_mul_inv]
    rw [shown] at low high ⊢
    refine ⟨_, rfl, quotient_near whole small low high, fun few units scale fits shown => ?_⟩
    rw [Int.natAbs_neg, Int.natAbs_natCast] at few
    exact quotient_exact whole few fits shown high
  · obtain ⟨count, rfl⟩ : ∃ count : Nat, power = count := ⟨power.natAbs, by omega⟩
    rw [Int.natAbs_natCast] at small
    rw [zpow_natCast] at low high ⊢
    have near := product_near whole small low high
    have finite : product (Format.double.round digits 1) (tenPower count) <
        Format.double.infinity := by
      rw [← Format.double.value_strictMono.lt_iff_lt, value_infinity]
      have upper := (abs_le.mp near).2
      have limit : (2 ^ 201 : ℚ) < 2 ^ 1024 := pow_lt_pow_right₀ (by norm_num) (by norm_num)
      exact lt_of_le_of_lt (by linarith) limit
    rw [if_neg (by omega), Int.natAbs_natCast, if_pos (by
      unfold Numeral.greatestPower
      omega), if_pos finite]
    refine ⟨_, rfl, near, fun few units scale fits shown => ?_⟩
    exact product_exact whole few fits shown high

end Double
end ShadeTree.Number
