import ShadeTree.Proofs.Number.NearMiss
import ShadeTree.Proofs.Number.Precision

/-!
Literals that are read again.

The digits of a literal fit into a number of double precision, and so does their scaling but for a few
units. This leads astray only decimals that nearly miss a middle, and none of them in fact. A reader
that rounds to the nearest number of double precision before it converts loses one number.
-/

namespace ShadeTree.Number

/-! ### Digits and scaling -/

theorem le_ofDigitChars (value : Nat) (digits : List Char) :
    value ≤ Nat.ofDigitChars 10 digits value := by
  rw [Nat.ofDigitChars_eq_ofDigitChars_zero]
  exact Nat.le_add_right_of_le (Nat.le_mul_of_pos_left _ (Nat.pow_pos (by decide)))

namespace Numeral

/-- Digits below the word limit are all taken. -/
theorem leading_eq {value : Nat} {digits : List Char}
    (fits : Nat.ofDigitChars 10 digits value < wordLimit) :
    leading value digits = (Nat.ofDigitChars 10 digits value, 0) := by
  induction digits generalizing value with
  | nil => rfl
  | cons digit rest ih =>
      have next : Nat.ofDigitChars 10 (digit :: rest) value =
          Nat.ofDigitChars 10 rest (10 * value + digitValue digit) := rfl
      rw [next] at fits ⊢
      rw [leading, if_pos ((le_ofDigitChars _ _).trans_lt fits), ih fits]

/-- A numeral with few digits is read from all of them. -/
theorem real_eq {numeral : Numeral}
    (fits : digitsValue (numeral.whole ++ numeral.fraction) < wordLimit) :
    numeral.real? =
      (scaled? (digitsValue (numeral.whole ++ numeral.fraction)) numeral.scaling).map
        (⟨numeral.negative, ·⟩) := by
  have split : digitsValue (numeral.whole ++ numeral.fraction) =
      Nat.ofDigitChars 10 numeral.fraction (digitsValue numeral.whole) := by
    rw [digitsValue_eq, Nat.ofDigitChars_append]
    rfl
  rw [split] at fits ⊢
  have whole : leading 0 numeral.whole = (Nat.ofDigitChars 10 numeral.whole 0, 0) :=
    leading_eq ((le_ofDigitChars _ _).trans_lt fits)
  rw [← digitsValue_eq] at whole
  unfold real? scaling
  dsimp only
  rw [whole]
  dsimp only
  rw [leading_eq fits]
  dsimp only
  congr 2
  omega

/-- The sign of a numeral is the sign of what it is read as. -/
theorem real_signed (numeral : Numeral) (negative : Bool) :
    { numeral with negative }.real? =
      numeral.real?.map fun value => { value with negative } := by
  unfold real?
  rw [Option.map_map]
  rfl

end Numeral

/-- The sign of a number only changes the sign of its numeral. -/
theorem Binary.numeral_signed {format : Format} (number : Binary format) (style : Style) :
    number.numeral style =
      { (⟨false, number.magnitude⟩ : Binary format).numeral style with
        negative := number.negative } := by
  unfold numeral isZero Style.numeral
  dsimp only
  split
  · rfl
  · split
    · split
      · rfl
      · split
        · rfl
        · rfl
    · rfl

/-- Scales grow with the magnitude. -/
theorem Format.scale_mono (format : Format) : Monotone format.scale := by
  intro magnitude other order
  exact Nat.sub_le_sub_right (Nat.div_le_div_right order) 1

/-! ### The decimal of a number -/

namespace Single

variable {magnitude : Nat}

/-- The shortest decimal of a positive number, which literals are made of. -/
def decimal (magnitude : Nat) : Decimal :=
  shortest .single .upper magnitude

def decimalValue (magnitude : Nat) : ℚ :=
  (decimal magnitude).digits * 10 ^ (decimal magnitude).exponent

/-- The bound of the finite numbers in single precision. -/
theorem value_infinity : Format.single.value Format.single.infinity = 2 ^ 128 :=
  Format.single.value_infinity 105 rfl

/-- A finite number is nearest to its decimal. -/
theorem decimal_nearest (nonzero : 0 < magnitude) (finite : magnitude < Format.single.infinity) :
    Format.single.Nearest (decimalValue magnitude) magnitude := by
  have rounded := round_shortest .upper nonzero finite
  have nearest := Format.single.roundDecimal_nearest (by decide)
    (decimal magnitude).digits (decimal magnitude).exponent
  rw [Format.roundDecimal, decimal, rounded] at nearest
  exact nearest

theorem value_infinity_le :
    Format.single.value Format.single.infinity ≤ 10 ^ Format.single.decimalBound := by
  have power : 2 ^ 128 ≤ 10 ^ Format.single.decimalBound := by decide +kernel
  rw [value_infinity]
  exact_mod_cast power

/-- The decimal of a number is not much finer than its unit. -/
theorem decimal_coarse (nonzero : 0 < magnitude) (finite : magnitude < Format.single.infinity) :
    3 / 4 * Format.single.unit (Format.single.scale magnitude) ≤
      10 ^ ((decimal magnitude).exponent + 1) :=
  unit_le_shortest .upper nonzero finite value_infinity_le

/-- The decimals of numbers of single precision lie well within the range of double precision. -/
theorem decimal_range (nonzero : 0 < magnitude) (finite : magnitude < Format.single.infinity) :
    1 / 2 ^ 150 ≤ decimalValue magnitude ∧ decimalValue magnitude ≤ 2 ^ 128 := by
  have between := (decimal_nearest nonzero finite).between
  constructor
  · have above := (between.above (magnitude - 1) (by omega)).1
    have least := Format.single.middle_strictMono.monotone (Nat.zero_le (magnitude - 1))
    have first : Format.single.middle 0 = 1 / 2 ^ 150 := by
      rw [middle_eq, half_unit]
      norm_num [Format.significand, Format.scale, Format.single]
    rw [first] at least
    exact least.trans above
  · have below := (between.below finite).1
    have next := Format.single.value_strictMono.monotone (Nat.succ_le_of_lt finite)
    have less := Format.single.value_strictMono (Nat.lt_succ_self magnitude)
    rw [value_infinity] at next
    rw [Format.middle] at below
    linarith

/-- The decimal of a number that is not zero has digits. -/
theorem decimal_positive (nonzero : 0 < magnitude) (finite : magnitude < Format.single.infinity) :
    0 < (decimal magnitude).digits := by
  have positive := (decimal_range nonzero finite).1
  by_contra zero
  have none : (decimal magnitude).digits = 0 := by omega
  rw [decimalValue, none] at positive
  norm_num at positive

/-- A shortest decimal has at most nine digits. -/
theorem decimal_digits_lt (nonzero : 0 < magnitude) (finite : magnitude < Format.single.infinity) :
    (decimal magnitude).digits < 2 ^ 28 := by
  have coarse := decimal_coarse nonzero finite
  have below := ((decimal_nearest nonzero finite).between.below finite).1
  have limit : (Format.single.significand magnitude : ℚ) < 2 ^ 24 := by
    exact_mod_cast Format.single.significand_lt magnitude
  have unitPositive := Format.single.unit_pos (Format.single.scale magnitude)
  have powerPositive : (0 : ℚ) < 10 ^ (decimal magnitude).exponent := zpow_pos (by norm_num) _
  rw [zpow_add_one₀ (by norm_num)] at coarse
  rw [Format.middle_eq, decimalValue] at below
  generalize Format.single.unit (Format.single.scale magnitude) = unit at *
  generalize (10 : ℚ) ^ (decimal magnitude).exponent = power at *
  generalize (Format.single.significand magnitude : ℚ) = units at *
  have half : (units + 1 / 2) * unit ≤ (2 ^ 24 + 1 / 2) * (40 / 3 * power) := by
    apply mul_le_mul
    · linarith
    · linarith
    · linarith
    · norm_num
  have bound : ((decimal magnitude).digits : ℚ) * power < 2 ^ 28 * power := by
    apply lt_of_le_of_lt (below.trans half)
    linarith
  exact_mod_cast lt_of_mul_lt_mul_right bound powerPositive.le

/-- Decimals in single precision have exponents of at most two digits. -/
theorem decimal_exponent_bounds (nonzero : 0 < magnitude)
    (finite : magnitude < Format.single.infinity) :
    -45 ≤ (decimal magnitude).exponent ∧ (decimal magnitude).exponent < 39 := by
  have small : Format.single.scale magnitude < 254 := by
    have bound : magnitude < 255 * 2 ^ 23 := finite
    change magnitude / 2 ^ 23 - 1 < 254
    omega
  constructor
  · have finer := gridExponent_le small (decimal_coarse nonzero finite)
    unfold gridExponent at finer
    omega
  · have high := (decimal_range nonzero finite).2
    have positive : (1 : ℚ) ≤ (decimal magnitude).digits := by
      exact_mod_cast decimal_positive nonzero finite
    have power : (10 : ℚ) ^ (decimal magnitude).exponent < 10 ^ (39 : Int) := by
      have least : (10 : ℚ) ^ (decimal magnitude).exponent ≤ decimalValue magnitude :=
        le_mul_of_one_le_left (zpow_pos (by norm_num) _).le positive
      apply lt_of_le_of_lt (least.trans high)
      norm_num
    exact (zpow_lt_zpow_iff_right₀ (by norm_num)).mp power

/-! ### How the decimal is read -/

/-- A middle is a number of double precision. -/
theorem middle_eq_double (magnitude : Nat) :
    Format.single.middle magnitude = (2 * Format.single.significand magnitude + 1 : Nat) *
      Format.double.unit (Format.single.scale magnitude + 924) := by
  have unit : Format.double.unit (Format.single.scale magnitude + 924) =
      2 ^ Format.single.scale magnitude / 2 ^ 150 := by
    rw [Format.unit, show Format.double.bias = 924 + 150 from rfl, pow_add, pow_add]
    field_simp
  rw [middle_eq, half_unit, unit]
  push_cast
  ring

/-- Powers of two aside, only great numbers are divisible by a great power of ten. -/
theorem lt_of_ten_pow_dvd {count number power : Nat} (least : 23 ≤ count) (positive : 0 < number)
    (divides : 10 ^ count ∣ number * 2 ^ power) : 2 ^ 28 < number := by
  have odd : 5 ^ count ∣ number := by
    have factor : 5 ^ count ∣ number * 2 ^ power :=
      (pow_dvd_pow_of_dvd (by decide) count).trans divides
    exact Nat.Coprime.dvd_of_dvd_mul_right (Nat.Coprime.pow _ _ (by decide)) factor
  calc
    2 ^ 28 < 5 ^ 23 := by norm_num
    _ ≤ 5 ^ count := Nat.pow_le_pow_right (by decide) least
    _ ≤ number := Nat.le_of_dvd positive odd

/-- A decimal that meets a middle has a power of ten that is exact in double precision. For a greater
power the middle would be a multiple of `5 ^ 23`, for a smaller one the digits would. -/
theorem exponent_small_of_middle {magnitude digits : Nat} {exponent : Int} (few : digits < 2 ^ 28)
    (positive : 0 < digits)
    (meets : (digits * 10 ^ exponent : ℚ) = Format.single.middle magnitude) :
    exponent.natAbs ≤ 22 := by
  have limit : Format.single.significand magnitude < 2 ^ 24 :=
    Format.single.significand_lt magnitude
  rw [middle_eq, half_unit] at meets
  generalize Format.single.significand magnitude = units at *
  generalize Format.single.scale magnitude = scale at *
  by_contra large
  obtain ⟨count, rfl | rfl⟩ := exponent.eq_nat_or_neg
  · rw [Int.natAbs_natCast] at large
    rw [zpow_natCast, mul_div_assoc', eq_div_iff (by positivity)] at meets
    have product : digits * 10 ^ count * 2 ^ 150 = (2 * units + 1) * 2 ^ scale := by
      exact_mod_cast meets
    have divides : 10 ^ count ∣ (2 * units + 1) * 2 ^ scale := by
      rw [← product]
      exact (dvd_mul_left _ _).mul_right _
    have many := lt_of_ten_pow_dvd (by omega) (Nat.succ_pos _) divides
    omega
  · rw [Int.natAbs_neg, Int.natAbs_natCast] at large
    rw [zpow_neg, zpow_natCast, ← div_eq_mul_inv, mul_div_assoc',
      div_eq_div_iff (by positivity) (by positivity)] at meets
    have product : digits * 2 ^ 150 = (2 * units + 1) * 2 ^ scale * 10 ^ count := by
      exact_mod_cast meets
    have divides : 10 ^ count ∣ digits * 2 ^ 150 := by
      rw [product]
      exact dvd_mul_left _ _
    have many := lt_of_ten_pow_dvd (by omega) positive divides
    omega

/-- What stays close to the decimal of a number, and meets a middle where the decimal does, is nearest
to the number, if the number is not one of those that were looked at. -/
theorem nearest_of_close (nonzero : 0 < magnitude) (finite : magnitude < Format.single.infinity)
    {read : ℚ} (close : |read - decimalValue magnitude| ≤ decimalValue magnitude / 2 ^ 51)
    (meets : ∀ other, decimalValue magnitude = Format.single.middle other →
      read = decimalValue magnitude)
    (unsettled : ¬ settled magnitude) : Format.single.Nearest read magnitude := by
  have between := (decimal_nearest nonzero finite).between
  have coarse := decimal_coarse nonzero finite
  obtain ⟨low, high⟩ := abs_le.mp close
  have near : ∀ other, (|decimalValue magnitude - Format.single.middle other| ≤
      decimalValue magnitude / 2 ^ 51) → other ≤ magnitude →
      (decimalValue magnitude < Format.single.middle other → settled other) ∧
        (Format.single.middle other < decimalValue magnitude → settled (other + 1)) := by
    intro other near order
    apply settled_of_near (Nat.lt_of_le_of_lt order finite) _ near
    have finer := Format.single.unit_mono (Format.single.scale_mono order)
    linarith
  apply Format.Between.nearest _ finite.le
  constructor
  · rintro below rfl
    obtain ⟨above, even⟩ := between.above below rfl
    rcases above.eq_or_lt with equal | less
    · rw [meets below equal.symm, ← equal]
      exact ⟨le_rfl, fun _ => even equal⟩
    · have strict : Format.single.middle below < read := by
        by_contra passed
        have distance : |decimalValue (below + 1) - Format.single.middle below| ≤
            decimalValue (below + 1) / 2 ^ 51 := by
          rw [abs_of_pos (sub_pos.mpr less)]
          linarith
        exact unsettled ((near below distance (Nat.le_succ _)).2 less)
      exact ⟨strict.le, fun equal => absurd equal strict.ne⟩
  · intro _
    obtain ⟨below, even⟩ := between.below finite
    rcases below.eq_or_lt with equal | less
    · rw [meets magnitude equal, equal]
      exact ⟨le_rfl, fun _ => even equal⟩
    · have strict : read < Format.single.middle magnitude := by
        by_contra passed
        have distance : |decimalValue magnitude - Format.single.middle magnitude| ≤
            decimalValue magnitude / 2 ^ 51 := by
          rw [abs_of_neg (sub_neg.mpr less)]
          linarith
        exact unsettled ((near magnitude distance le_rfl).1 less)
      exact ⟨strict.le, fun equal => absurd equal strict.ne⟩

/-! ### Reading a literal -/

/-- A number of at most sixteen digits, made longer by a zero, has so few digits that are no twos. -/
theorem five_pow_lt {digits zeros : Nat} (few : digits < 2 ^ 28) (sixteen : digits * 10 ^ zeros < 10 ^ 16) :
    digits * 5 ^ (zeros + 1) < 2 ^ 53 := by
  by_cases short : zeros ≤ 2
  · calc
      digits * 5 ^ (zeros + 1) ≤ digits * 5 ^ 3 :=
        Nat.mul_le_mul_left _ (Nat.pow_le_pow_right (by decide) (by omega))
      _ < 2 ^ 53 := by omega
  · have twos : 2 ^ 3 ≤ 2 ^ zeros := Nat.pow_le_pow_right (by decide) (by omega)
    have split : digits * 5 ^ (zeros + 1) * 2 ^ zeros = 5 * (digits * 10 ^ zeros) := by
      rw [show 10 = 5 * 2 from rfl, Nat.mul_pow, Nat.pow_succ]
      ring
    have least := Nat.mul_le_mul_left (digits * 5 ^ (zeros + 1)) twos
    omega

/-- What a reader takes from the literal of a positive number. -/
structure Legible (numeral : Numeral) (magnitude : Nat) : Prop where
  value : numeral.absValue = decimalValue magnitude
  few : digitsValue (numeral.whole ++ numeral.fraction) < wordLimit
  exact : ∃ units scale : Nat, units < 2 ^ 53 ∧
    digitsValue (numeral.whole ++ numeral.fraction) = units * 2 ^ scale
  scaling : numeral.scaling = (decimal magnitude).exponent ∨ numeral.scaling = -1

/-- Zeros are written behind the digits up to the sixteenth digit and behind the point. -/
theorem legible_literal (nonzero : 0 < magnitude) (finite : magnitude < Format.single.infinity)
    (negative : Bool) : Legible (Style.literal.numeral negative (decimal magnitude)) magnitude := by
  have few := decimal_digits_lt nonzero finite
  obtain ⟨count, digitsEq, scalingEq, shape⟩ :=
    Style.literal.numeral_digits (by decide) negative (decimal magnitude)
  have value : (Style.literal.numeral negative (decimal magnitude)).absValue =
      decimalValue magnitude :=
    Style.absValue_numeral (by decide) negative (decimal magnitude)
  rcases shape with rfl | ⟨whole, positional, marked⟩
  · refine ⟨value, ?_, ⟨(decimal magnitude).digits, 0, by omega, digitsEq⟩,
      .inl (by rw [scalingEq, Int.natCast_zero, Int.sub_zero])⟩
    have limit : 2 ^ 28 < wordLimit := by decide
    rw [digitsEq, Nat.pow_eq, Nat.pow_zero, Nat.mul_one]
    exact few.trans limit
  · obtain ⟨zeros, exponent⟩ := Int.eq_ofNat_of_zero_le whole
    rw [exponent] at positional marked scalingEq
    obtain rfl : count = zeros + 1 := marked
    have length : (decimalDigits (decimal magnitude).digits).length + zeros ≤ 16 := by
      simp only [Style.literal, Bool.and_eq_true, decide_eq_true_eq] at positional
      omega
    have sixteen : (decimal magnitude).digits * 10 ^ zeros < 10 ^ 16 := by
      have below : (decimal magnitude).digits <
          10 ^ (decimalDigits (decimal magnitude).digits).length :=
        (Nat.length_toDigits_le_iff (by decide) Nat.length_toDigits_pos).mp le_rfl
      calc
        (decimal magnitude).digits * 10 ^ zeros <
            10 ^ (decimalDigits (decimal magnitude).digits).length * 10 ^ zeros :=
          Nat.mul_lt_mul_of_pos_right below (Nat.pow_pos (by decide))
        _ = 10 ^ ((decimalDigits (decimal magnitude).digits).length + zeros) := (Nat.pow_add ..).symm
        _ ≤ 10 ^ 16 := Nat.pow_le_pow_right (by decide) length
    refine ⟨value, ?_, ⟨_, zeros + 1, five_pow_lt few sixteen, ?_⟩, .inr (by rw [scalingEq]; omega)⟩
    · rw [digitsEq, wordLimit, Nat.pow_eq, Nat.pow_succ, ← Nat.mul_assoc]
      omega
    · rw [digitsEq, Nat.pow_eq, show 10 = 5 * 2 from rfl, Nat.mul_pow, Nat.mul_assoc]

/-- A number of double precision becomes the number of single precision that is nearest to it. -/
theorem convert_nearest (number : Double) :
    Format.single.Nearest (Format.double.value number.magnitude)
      (number.convert .single).magnitude := by
  have converted := Format.single.round_nearest (by decide)
    (pow_two_pos Format.double.bias) (Double.exact number.magnitude)
  rw [Double.value_exact, cast_pow_two, mul_div_cancel_right₀ _ (by positivity)] at converted
  exact converted

/-- No other number of single precision is nearest to it. -/
theorem convert_of_nearest {number : Double}
    (nearest : Format.single.Nearest (Format.double.value number.magnitude) magnitude) :
    number.convert .single = ⟨number.negative, magnitude⟩ :=
  congrArg (Binary.mk number.negative) ((convert_nearest number).unique nearest)

/-- A literal whose decimal misses no middle nearly is read as its number, for all the rounding of its
reader. -/
theorem real_nearest (nonzero : 0 < magnitude) (finite : magnitude < Format.single.infinity)
    (unsettled : ¬ settled magnitude) {numeral : Numeral} (legible : Legible numeral magnitude) :
    ∃ read, numeral.real? = some ⟨numeral.negative, read⟩ ∧
      Format.single.Nearest (Format.double.value read) magnitude := by
  obtain ⟨value, few, ⟨units, scale, fits, digits⟩, scaling⟩ := legible
  obtain ⟨least, most⟩ := decimal_exponent_bounds nonzero finite
  obtain ⟨low, high⟩ := decimal_range nonzero finite
  rw [← value, Numeral.absValue] at low high
  obtain ⟨read, scaled, stands⟩ := Double.scaled_stands numeral.scaling fits digits few
    (by omega) (le_trans (by norm_num) low) (high.trans (by norm_num))
  refine ⟨read, by rw [Numeral.real_eq few, scaled]; rfl, ?_⟩
  have standsFor : Double.Stands (decimalValue magnitude) numeral.scaling read := value ▸ stands
  apply nearest_of_close nonzero finite standsFor.near _ unsettled
  intro other meets
  apply standsFor.exact _ _ _ _ (meets.trans (middle_eq_double other))
  · have small := exponent_small_of_middle (decimal_digits_lt nonzero finite)
      (decimal_positive nonzero finite) meets
    omega
  · have limit : Format.single.significand other < 2 ^ 24 := Format.single.significand_lt other
    omega

/-- The same holds if its reader rounds only once before it converts. -/
theorem rounded_nearest (nonzero : 0 < magnitude) (finite : magnitude < Format.single.infinity)
    (unsettled : ¬ settled magnitude) {numeral : Numeral} (legible : Legible numeral magnitude) :
    Format.single.Nearest (Format.double.value (numeral.nearest .double).magnitude) magnitude := by
  obtain ⟨low, high⟩ := decimal_range nonzero finite
  have fraction := cast_decimal (digitsValue (numeral.whole ++ numeral.fraction)) numeral.scaling
  rw [← Numeral.absValue, legible.value] at fraction
  have positive : 0 < decimalValue magnitude := lt_of_lt_of_le (by norm_num) low
  have close : (1 - 2 / 2 ^ 53) * decimalValue magnitude ≤ decimalValue magnitude ∧
      decimalValue magnitude ≤ (1 + 2 / 2 ^ 53) * decimalValue magnitude := by
    constructor
    · linarith
    · linarith
  obtain ⟨least, most⟩ := Double.range_of_close close
    (le_trans (by norm_num) low) (high.trans (by norm_num))
  have bounds := Double.round_bounds (pow_ten_pos _) (fraction ▸ least) (fraction ▸ most)
  rw [fraction] at bounds
  apply nearest_of_close nonzero finite (Double.near_of_close positive close bounds) _ unsettled
  intro other meets
  apply Double.value_round_exact (pow_ten_pos _) _ (meets.trans (middle_eq_double other))
    (high.trans (by norm_num)) fraction
  have limit : Format.single.significand other < 2 ^ 24 := Format.single.significand_lt other
  omega

/-- The literal of a positive number is read as the number. Rounded twice it is for all but one. -/
theorem reread_positive (nonzero : 0 < magnitude) (finite : magnitude < Format.single.infinity) :
    reread? magnitude = some magnitude ∧ (rounded magnitude = magnitude ↔ magnitude ≠ lostTwice) := by
  by_cases looked : settled magnitude
  · simp only [settled, Bool.and_eq_true, beq_iff_eq, bne_iff_ne] at looked
    refine ⟨looked.1, ?_⟩
    have differ := looked.2
    by_cases same : rounded magnitude = magnitude
    · simpa [same] using differ
    · simpa [same] using differ
  · have legible := legible_literal nonzero finite false
    have literal : (⟨false, magnitude⟩ : Single).numeral .literal =
        Style.literal.numeral false (decimal magnitude) := by
      rw [Binary.numeral, if_neg (by simp [Binary.isZero, nonzero.ne'])]
      rfl
    obtain ⟨read, real, nearest⟩ := real_nearest nonzero finite looked legible
    have twice := rounded_nearest nonzero finite looked legible
    have other : magnitude ≠ lostTwice := by
      rintro rfl
      exact looked (by decide +kernel)
    refine ⟨?_, fun _ => other, fun _ => ?_⟩
    · rw [reread?, literal, real, Option.map_some, convert_of_nearest nearest]
    · rw [rounded, literal, convert_of_nearest twice]

/-- Reading twice gives every finite number back but one. -/
theorem reread_finite (finite : magnitude < Format.single.infinity) :
    reread? magnitude = some magnitude ∧ (rounded magnitude = magnitude ↔ magnitude ≠ lostTwice) := by
  rcases Nat.eq_zero_or_pos magnitude with rfl | positive
  · decide +kernel
  · exact reread_positive positive finite

variable {number : Single}

/-- The literal of a finite number is read as the number, its sign included. -/
theorem real_literal (finite : number.isFinite) :
    (number.numeral .literal).real?.map (Binary.convert .single) = some number := by
  obtain ⟨read, real, converted⟩ :=
    Option.map_eq_some_iff.mp (reread_finite (of_decide_eq_true finite)).1
  rw [number.numeral_signed, Numeral.real_signed, real]
  exact congrArg (fun kept => some (Binary.mk number.negative kept)) converted

/-! ### A reader that rounds twice -/

/-- The number is nearest to a number of double precision that is itself nearest to the numeral. -/
def ReadTwice (number : Single) (numeral : Numeral) : Prop :=
  ∃ double : Double, double.IsNearest numeral ∧ number.negative = double.negative ∧
    Format.single.Nearest (Format.double.value double.magnitude) number.magnitude

/-- Rounding twice leaves one number for every numeral. -/
theorem readTwice_iff {numeral : Numeral} :
    number.ReadTwice numeral ↔ number = (numeral.nearest .double).convert .single := by
  have first : (numeral.nearest .double).IsNearest numeral :=
    ⟨rfl, Format.double.roundDecimal_nearest (by decide) _ _⟩
  constructor
  · rintro ⟨double, nearest, sign, converted⟩
    rw [first.unique nearest, convert_of_nearest converted, ← sign]
  · rintro rfl
    exact ⟨_, first, rfl, convert_nearest _⟩

/-- The literal of a number and of its negation alone is lost, to the next number away from zero. -/
theorem nearest_literal (finite : number.isFinite) :
    ((number.numeral .literal).nearest .double).convert .single =
      if number.magnitude = lostTwice then ⟨number.negative, lostTwice + 1⟩ else number := by
  obtain ⟨negative, magnitude⟩ := number
  have kept := (reread_finite (of_decide_eq_true finite)).2
  have read : (((⟨negative, magnitude⟩ : Single).numeral .literal).nearest .double).convert .single =
      ⟨negative, rounded magnitude⟩ := by
    rw [Binary.numeral_signed]
    rfl
  rw [read]
  split
  · rename_i lost
    have moved : rounded lostTwice = lostTwice + 1 := by decide +kernel
    rw [show magnitude = lostTwice from lost, moved]
  · rename_i other
    rw [kept.mpr other]

end Single

end ShadeTree.Number
