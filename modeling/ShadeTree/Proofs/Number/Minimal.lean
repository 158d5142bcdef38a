import ShadeTree.Proofs.Number.Interval
import ShadeTree.Proofs.Number.Reload
import ShadeTree.Proofs.Number.Significant

/-!
Shortest decimals are shortest.

No grid that is coarser than that of the shortest decimal has a point in the interval of its number. A
decimal with fewer digits would leave a power of ten between itself and the shortest one that is such a
point. Of the points of one grid the nearest is taken.
-/

namespace ShadeTree.Number

namespace Interval

/-! ### The point that is taken -/

variable {format : Format} {interval : Interval} {magnitude step split point : Nat} {exponent : Int}

/-- What lies between a point of the interval and its centre lies in the interval. -/
theorem contains_toward (splitPositive : 0 < split)
    (low : interval.low < interval.centre) (high : interval.centre < interval.high)
    (inside : interval.contains step split point) (other : Nat)
    (toward : point * step ≤ other * step ∧ other * step ≤ interval.centre * split ∨
      interval.centre * split ≤ other * step ∧ other * step ≤ point * step) :
    interval.contains step split other := by
  have lowSplit := Nat.mul_lt_mul_of_pos_right low splitPositive
  have highSplit := Nat.mul_lt_mul_of_pos_right high splitPositive
  unfold contains at inside ⊢
  split at inside
  · rename_i closed
    rw [if_pos closed]
    simp only [Bool.and_eq_true, decide_eq_true_eq] at inside ⊢
    omega
  · rename_i opened
    rw [if_neg opened]
    simp only [Bool.and_eq_true, decide_eq_true_eq] at inside ⊢
    omega

/-- Of the two points next to the centre, the one on the side of a point of the interval lies inside. -/
theorem contains_next (positive : 0 < step) (splitPositive : 0 < split)
    (low : interval.low < interval.centre) (high : interval.centre < interval.high)
    (inside : interval.contains step split point) :
    let below := interval.centre * split / step
    point * step ≤ below * step ∧ interval.contains step split below ∨
      (below + 1) * step ≤ point * step ∧ interval.contains step split (below + 1) := by
  obtain ⟨under, passed⟩ := target_between positive (interval.centre * split)
  have toward := contains_toward splitPositive low high inside
  dsimp only
  by_cases side : point ≤ interval.centre * split / step
  · have order := Nat.mul_le_mul_right step side
    exact .inl ⟨order, toward _ (.inl ⟨order, under⟩)⟩
  · have order := Nat.mul_le_mul_right step (Nat.lt_of_not_le side)
    exact .inr ⟨order, toward _ (.inr ⟨passed.le, order⟩)⟩

/-- A point is found where there is one, and none in the interval is nearer to its centre. -/
theorem exists_gridPoint (tie : Tie) (positive : 0 < step) (splitPositive : 0 < split)
    (low : interval.low < interval.centre) (high : interval.centre < interval.high)
    (inside : interval.contains step split point) :
    ∃ digits, interval.gridPoint? tie step split = some digits ∧
      |(digits * step - (interval.centre * split : Nat) : Int)| ≤
        |(point * step - (interval.centre * split : Nat) : Int)| := by
  obtain ⟨under, passed⟩ := target_between positive (interval.centre * split)
  have side := contains_next positive splitPositive low high inside
  unfold gridPoint?
  dsimp only at side ⊢
  generalize interval.centre * split / step = below at *
  generalize interval.centre * split = centre at *
  have next : ((below + 1 : Nat) * step : Int) = below * step + step := by
    push_cast
    ring
  have middle : (2 * below + 1) * step = 2 * (below * step) + step := by ring
  rw [Nat.add_mul, Nat.one_mul] at passed side
  have lowerAway : |(below * step - centre : Int)| = centre - below * step := by
    rw [abs_of_nonpos (by omega), neg_sub]
  have upperAway : |((below + 1 : Nat) * step - centre : Int)| = below * step + step - centre := by
    rw [next, abs_of_nonneg (by omega)]
  have away : point * step ≤ below * step ∧
      |(point * step - centre : Int)| = centre - point * step ∨
      below * step + step ≤ point * step ∧
        |(point * step - centre : Int)| = point * step - centre := by
    rcases side with ⟨order, -⟩ | ⟨order, -⟩
    · exact .inl ⟨order, by rw [abs_of_nonpos (by omega), neg_sub]⟩
    · exact .inr ⟨order, by rw [abs_of_nonneg (by omega)]⟩
  split
  · split
    · refine ⟨below, rfl, ?_⟩
      rw [lowerAway]
      omega
    · split
      · refine ⟨below + 1, rfl, ?_⟩
        rw [upperAway]
        omega
      · -- both are equally near
        refine ⟨tie.choose below, rfl, ?_⟩
        rcases tie.choose_eq below with chosen | chosen
        · rw [chosen, lowerAway]
          omega
        · rw [chosen, upperAway]
          omega
  · rename_i first second
    refine ⟨below, rfl, ?_⟩
    simp only [second, Bool.false_eq_true, and_false, or_false] at side
    rw [lowerAway]
    omega
  · rename_i first second
    refine ⟨below + 1, rfl, ?_⟩
    simp only [first, Bool.false_eq_true, and_false, false_or] at side
    rw [upperAway]
    omega
  · rename_i first second
    simp [first, second] at side

/-- A grid has a point that is nearest to the number if any of its points has the number for the
nearest one. -/
theorem gridPoint_of_nearest (tie : Tie) (wide : 0 < format.fractionBits) (nonzero : 0 < magnitude)
    (finite : magnitude < format.infinity)
    (nearest : format.Nearest (point * 10 ^ exponent) magnitude) :
    ∃ digits, (around format magnitude).gridPoint? tie (grid format exponent).1
        (grid format exponent).2 = some digits ∧
      |digits * 10 ^ exponent - format.value magnitude| ≤
        |point * 10 ^ exponent - format.value magnitude| := by
  obtain ⟨low, high, -⟩ := around_order format nonzero
  obtain ⟨stepPositive, splitPositive⟩ := grid_pos format exponent
  have inside := (Format.nearest_iff_contains wide nonzero finite).mp nearest
  obtain ⟨digits, found, closer⟩ :=
    exists_gridPoint tie stepPositive splitPositive low high inside
  refine ⟨digits, found, ?_⟩
  rw [Format.abs_point_sub_value, Format.abs_point_sub_value]
  exact mul_le_mul_of_nonneg_right (by exact_mod_cast closer) (format.part_pos exponent).le

end Interval

section Shortest

variable {format : Format} {magnitude point : Nat} {exponent : Int}

/-- No number but zero is nearest to zero. -/
theorem Format.not_nearest_zero (format : Format) (nonzero : 0 < magnitude) :
    ¬ format.Nearest 0 magnitude := by
  intro nearest
  obtain ⟨below, next⟩ : ∃ below, below + 1 = magnitude := ⟨magnitude - 1, by omega⟩
  have above := (nearest.between.above below next).1
  have nonnegative := format.value_nonneg below
  have less := format.value_strictMono (Nat.lt_succ_self below)
  rw [middle] at above
  linarith

/-- What a finite number is nearest to lies below the bound of the finite numbers. -/
theorem Format.Nearest.lt_infinity {exact : ℚ} (nearest : format.Nearest exact magnitude)
    (finite : magnitude < format.infinity) : exact < format.value format.infinity := by
  have below := (nearest.between.below finite).1
  have less := format.value_strictMono (Nat.lt_succ_self magnitude)
  have next := format.value_strictMono.monotone (Nat.succ_le_of_lt finite)
  rw [middle] at below
  linarith

/-- Of the points on its grid the shortest decimal is nearest to the number. -/
theorem shortest_closest (tie : Tie) (wide : 0 < format.fractionBits) (nonzero : 0 < magnitude)
    (finite : magnitude < format.infinity)
    (nearest : format.Nearest (point * 10 ^ (shortest format tie magnitude).exponent) magnitude) :
    |(shortest format tie magnitude).digits * 10 ^ (shortest format tie magnitude).exponent -
        format.value magnitude| ≤
      |point * 10 ^ (shortest format tie magnitude).exponent - format.value magnitude| := by
  obtain ⟨digits, found, closer⟩ := Interval.gridPoint_of_nearest tie wide nonzero finite nearest
  rw [shortest_gridPoint tie nonzero] at found
  cases found
  exact closer

/-- No point of a coarser grid has the number for the nearest one. -/
theorem shortest_coarsest (tie : Tie) (wide : 0 < format.fractionBits) (nonzero : 0 < magnitude)
    (finite : magnitude < format.infinity)
    (least : format.value format.infinity ≤ 10 ^ format.decimalBound)
    (coarser : (shortest format tie magnitude).exponent < exponent) :
    ¬ format.Nearest (point * 10 ^ exponent) magnitude := by
  intro nearest
  rcases (Interval.around format magnitude).search_coarser format tie format.decimalBound
    (format.decimalBound + format.bias + 1) with first | missed
  · change (shortest format tie magnitude).exponent = format.decimalBound at first
    rcases Nat.eq_zero_or_pos point with rfl | positive
    · rw [Nat.cast_zero, zero_mul] at nearest
      exact format.not_nearest_zero nonzero nearest
    · have power : (10 : ℚ) ^ (format.decimalBound : Int) ≤ 10 ^ exponent :=
        zpow_le_zpow_right₀ (by norm_num) (by omega)
      have whole : (10 : ℚ) ^ exponent ≤ point * 10 ^ exponent :=
        le_mul_of_one_le_left (zpow_pos (by norm_num) _).le (by exact_mod_cast positive)
      have limit := nearest.lt_infinity finite
      rw [zpow_natCast] at power
      linarith
  · change (Interval.around format magnitude).gridPoint? tie
      (Interval.grid format ((shortest format tie magnitude).exponent + 1)).1
      (Interval.grid format ((shortest format tie magnitude).exponent + 1)).2 = none at missed
    obtain ⟨count, rfl⟩ : ∃ count : Nat,
        exponent = (shortest format tie magnitude).exponent + 1 + count :=
      ⟨(exponent - (shortest format tie magnitude).exponent - 1).toNat, by omega⟩
    rw [← decimal_shift point count, add_sub_cancel_right] at nearest
    obtain ⟨digits, found, -⟩ := Interval.gridPoint_of_nearest tie wide nonzero finite nearest
    rw [missed] at found
    cases found

end Shortest

namespace Single

variable {magnitude digits count : Nat} {exponent : Int}

/-- A finite number is nearest to no decimal of lower precision than its own. -/
theorem not_nearest_coarser (nonzero : 0 < magnitude) (finite : magnitude < Format.single.infinity)
    (coarser : (decimal magnitude).exponent < exponent) :
    ¬ Format.single.Nearest (digits * 10 ^ exponent) magnitude :=
  shortest_coarsest .upper (by decide) nonzero finite value_infinity_le coarser

/-- A power of ten between the shortest decimal and another one with the same nearest number is the unit
of the shortest decimal. -/
theorem eq_zero_of_le_power (nonzero : 0 < magnitude) (finite : magnitude < Format.single.infinity)
    {exact : ℚ} (nearest : Format.single.Nearest exact magnitude)
    (enough : 10 ^ count ≤ (decimal magnitude).digits)
    (passed : exact ≤ 10 ^ count * 10 ^ (decimal magnitude).exponent) : count = 0 := by
  -- the power lies between the two decimals, and on a coarser grid if it is not the unit
  have reached : (10 : ℚ) ^ count * 10 ^ (decimal magnitude).exponent ≤ decimalValue magnitude :=
    mul_le_mul_of_nonneg_right (by exact_mod_cast enough) (zpow_pos (by norm_num) _).le
  have power := nearest.convex (decimal_nearest nonzero finite) passed reached
  by_contra some
  have shift := decimal_shift 1 count ((decimal magnitude).exponent + count)
  rw [add_sub_cancel_right, Nat.one_mul, Nat.pow_eq, Nat.cast_pow, Nat.cast_ofNat] at shift
  rw [shift] at power
  exact not_nearest_coarser nonzero finite (by omega) power

/-- A decimal with fewer digits has another number for the nearest one. -/
theorem not_nearest_fewer (nonzero : 0 < magnitude) (finite : magnitude < Format.single.infinity)
    (fewer : digits < 10 ^ count) (enough : 10 ^ count ≤ (decimal magnitude).digits) :
    ¬ Format.single.Nearest (digits * 10 ^ exponent) magnitude := by
  intro nearest
  have finer : exponent ≤ (decimal magnitude).exponent := by
    by_contra coarser
    exact not_nearest_coarser nonzero finite (by omega) nearest
  have passed : (digits * 10 ^ exponent : ℚ) ≤ 10 ^ count * 10 ^ (decimal magnitude).exponent := by
    apply mul_le_mul
    · exact_mod_cast fewer.le
    · exact zpow_le_zpow_right₀ (by norm_num) finer
    · exact (zpow_pos (by norm_num) _).le
    · positivity
  have single := eq_zero_of_le_power nonzero finite nearest enough passed
  rw [single, Nat.pow_zero, Nat.lt_one_iff] at fewer
  rw [fewer, Nat.cast_zero, zero_mul] at nearest
  exact Format.single.not_nearest_zero nonzero nearest

/-- Only the interval of a number below ten units reaches from nine tenths of a decimal to all of it. -/
theorem magnitude_lt_ten (nonzero : 0 < magnitude) (finite : magnitude < Format.single.infinity)
    {low high : ℚ} (first : Format.single.Nearest low magnitude)
    (second : Format.single.Nearest high magnitude) (apart : 10 * low ≤ 9 * high) :
    magnitude < 10 := by
  obtain ⟨below, rfl⟩ : ∃ below, magnitude = below + 1 := ⟨magnitude - 1, by omega⟩
  have above := (first.between.above below rfl).1
  have under := (second.between.below finite).1
  have before := Format.single.value_succ below
  have finer := Format.single.unit_mono (Format.single.scale_mono (Nat.le_succ below))
  have positive := Format.single.unit_pos (Format.single.scale (below + 1))
  have units : Format.single.value (below + 1) = Format.single.significand (below + 1) *
    Format.single.unit (Format.single.scale (below + 1)) := rfl
  have whole := Format.single.scale_add_significand (below + 1)
  have normal := Format.single.implicit_le (below + 1)
  have implicit : Nat.pow 2 Format.single.fractionBits = 2 ^ 23 := rfl
  rw [Format.middle] at above
  rw [Format.middle_eq, add_mul, ← units] at under
  have few : (Format.single.significand (below + 1) : ℚ) < 10 := by
    have product : Format.single.significand (below + 1) *
        Format.single.unit (Format.single.scale (below + 1)) <
          10 * Format.single.unit (Format.single.scale (below + 1)) := by
      rw [← units]
      linarith
    exact lt_of_mul_lt_mul_right product positive.le
  have small : Format.single.significand (below + 1) < 10 := by exact_mod_cast few
  rw [implicit] at whole normal
  have unscaled : Format.single.scale (below + 1) = 0 := by
    by_contra scaled
    have large := normal (by omega)
    omega
  rw [unscaled] at whole
  omega

/-- Such a number is at least as great as the unit of its shortest decimal, or the nine on the next finer
grid lies outside its interval. -/
theorem decimal_below_ten : ∀ magnitude < 10, 0 < magnitude →
    1 * (Interval.grid .single (decimal magnitude).exponent).1 ≤
        (Interval.around .single magnitude).centre *
          (Interval.grid .single (decimal magnitude).exponent).2 ∨
      (Interval.around .single magnitude).contains
        (Interval.grid .single ((decimal magnitude).exponent - 1)).1
        (Interval.grid .single ((decimal magnitude).exponent - 1)).2 9 = false := by
  decide +kernel

/-- A single digit on a finer grid is no nearer. -/
theorem decimal_closest_digit (nonzero : 0 < magnitude)
    (finite : magnitude < Format.single.infinity) (single : digits < 10)
    (finer : exponent < (decimal magnitude).exponent)
    (nearest : Format.single.Nearest (digits * 10 ^ exponent) magnitude) :
    |decimalValue magnitude - Format.single.value magnitude| ≤
      |digits * 10 ^ exponent - Format.single.value magnitude| := by
  have powerPositive : (0 : ℚ) < 10 ^ ((decimal magnitude).exponent - 1) :=
    zpow_pos (by norm_num) _
  have tenth : (10 : ℚ) ^ (decimal magnitude).exponent =
      10 * 10 ^ ((decimal magnitude).exponent - 1) := by
    rw [mul_comm, ← zpow_add_one₀ (by norm_num), sub_add_cancel]
  have low : (digits * 10 ^ exponent : ℚ) ≤ (9 : Nat) * 10 ^ ((decimal magnitude).exponent - 1) := by
    apply mul_le_mul
    · exact_mod_cast Nat.le_of_lt_succ single
    · exact zpow_le_zpow_right₀ (by norm_num) (by omega)
    · exact (zpow_pos (by norm_num) _).le
    · positivity
  have high : (1 : Nat) * (10 : ℚ) ^ (decimal magnitude).exponent ≤ decimalValue magnitude :=
    mul_le_mul_of_nonneg_right (by exact_mod_cast decimal_positive nonzero finite)
      (zpow_pos (by norm_num) _).le
  have nearDecimal := decimal_nearest nonzero finite
  have nearUnit : Format.single.Nearest ((1 : Nat) * 10 ^ (decimal magnitude).exponent) magnitude := by
    apply nearest.convex nearDecimal _ high
    push_cast at low ⊢
    linarith
  have nearNine : Format.single.Nearest ((9 : Nat) * 10 ^ ((decimal magnitude).exponent - 1))
      magnitude := by
    apply nearest.convex nearUnit low
    push_cast
    linarith
  have small : magnitude < 10 := by
    apply magnitude_lt_ten nonzero finite nearNine nearUnit
    push_cast
    linarith
  rcases decimal_below_ten magnitude small nonzero with reached | missed
  · -- the unit lies between the digit and the number
    rw [← Format.point_le_quarters_iff, Format.quarters_centre] at reached
    have closest := shortest_closest .upper (by decide) nonzero finite nearUnit
    refine closest.trans ?_
    change |(1 : Nat) * (10 : ℚ) ^ (decimal magnitude).exponent - Format.single.value magnitude| ≤ _
    push_cast at reached low ⊢
    rw [abs_of_nonpos (by linarith), abs_of_nonpos (by linarith)]
    linarith
  · rw [Format.nearest_iff_contains (by decide) nonzero finite, missed] at nearNine
    cases nearNine

/-- A decimal with as many digits is no nearer. -/
theorem decimal_closest (nonzero : 0 < magnitude) (finite : magnitude < Format.single.infinity)
    (fits : digits < 10 ^ (count + 1)) (enough : 10 ^ count ≤ (decimal magnitude).digits)
    (nearest : Format.single.Nearest (digits * 10 ^ exponent) magnitude) :
    |decimalValue magnitude - Format.single.value magnitude| ≤
      |digits * 10 ^ exponent - Format.single.value magnitude| := by
  rcases lt_trichotomy exponent (decimal magnitude).exponent with finer | rfl | coarser
  · have passed : (digits * 10 ^ exponent : ℚ) ≤
        10 ^ count * 10 ^ (decimal magnitude).exponent := by
      calc
        (digits * 10 ^ exponent : ℚ) ≤ 10 ^ (count + 1) * 10 ^ exponent :=
          mul_le_mul_of_nonneg_right (by exact_mod_cast fits.le) (zpow_pos (by norm_num) _).le
        _ = 10 ^ count * 10 ^ (exponent + 1) := by
          rw [pow_succ, zpow_add_one₀ (by norm_num)]
          ring
        _ ≤ 10 ^ count * 10 ^ (decimal magnitude).exponent :=
          mul_le_mul_of_nonneg_left (zpow_le_zpow_right₀ (by norm_num) finer) (by positivity)
    have single := eq_zero_of_le_power nonzero finite nearest enough passed
    rw [single] at fits
    exact decimal_closest_digit nonzero finite fits finer nearest
  · exact shortest_closest .upper (by decide) nonzero finite nearest
  · exact absurd nearest (not_nearest_coarser nonzero finite coarser)

/-- A numeral that stands for the shortest decimal has its digits for the significant ones. -/
theorem precision_of_absValue (nonzero : 0 < magnitude) (finite : magnitude < Format.single.infinity)
    {numeral : Numeral} (formed : numeral.WellFormed)
    (value : numeral.absValue = decimalValue magnitude) :
    ∃ count, numeral.precision = count + 1 ∧ 10 ^ count ≤ (decimal magnitude).digits := by
  obtain ⟨digits, exponent, scaled, fits, ends⟩ := Numeral.absValue_significant formed
  have nearest := decimal_nearest nonzero finite
  rw [← value, scaled] at nearest
  have some : 0 < numeral.precision := by
    by_contra none
    rw [Nat.eq_zero_of_not_pos none, Nat.pow_zero, Nat.lt_one_iff] at fits
    rw [fits, Nat.cast_zero, zero_mul] at nearest
    exact Format.single.not_nearest_zero nonzero nearest
  obtain ⟨least, last⟩ := ends some
  have finer : exponent ≤ (decimal magnitude).exponent := by
    by_contra coarser
    exact not_nearest_coarser nonzero finite (by omega) nearest
  obtain ⟨shift, exponentEq⟩ := Int.exists_add_of_le finer
  have same : digits = (decimal magnitude).digits * 10 ^ shift := by
    rw [scaled, decimalValue, exponentEq, zpow_add₀ (by norm_num), zpow_natCast, mul_comm (_ ^ _),
      ← mul_assoc] at value
    exact_mod_cast mul_right_cancel₀ (zpow_pos (by norm_num) exponent).ne' value
  -- the last of the significant digits is no zero, so that there is no shift
  cases shift with
  | zero =>
      rw [Nat.pow_zero, Nat.mul_one] at same
      exact ⟨numeral.precision - 1, by omega, same ▸ least⟩
  | succ shift =>
      exfalso
      apply last
      rw [same, Nat.pow_succ, ← Nat.mul_assoc]
      exact Nat.dvd_mul_left ..

/-- A finite number that is no zero has a literal, which is nearest to it. No numeral with fewer
significant digits is, and of those with as many none is nearer to the number. -/
theorem literal_shortest (number : Single) (finite : number.isFinite)
    (nonzero : number.magnitude ≠ 0) :
    ∃ text numeral, number.literal? = some text ∧ Numeral.read? text.toList = some numeral ∧
      number.IsNearest numeral ∧
      ∀ other : Numeral, other.WellFormed → number.IsNearest other →
        numeral.precision ≤ other.precision ∧
          (other.precision = numeral.precision →
            |numeral.absValue - Format.single.value number.magnitude| ≤
              |other.absValue - Format.single.value number.magnitude|) := by
  have positive : 0 < number.magnitude := Nat.pos_of_ne_zero nonzero
  have bounded : number.magnitude < Format.single.infinity := of_decide_eq_true finite
  have formed := number.numeral_wellFormed .literal
  have written : number.numeral .literal =
      Style.literal.numeral number.negative (decimal number.magnitude) := by
    rw [Binary.numeral, Binary.isZero, beq_false_of_ne nonzero, if_neg Bool.false_ne_true]
    rfl
  have value : (number.numeral .literal).absValue = decimalValue number.magnitude := by
    rw [written]
    exact Style.absValue_numeral (by decide) _ _
  obtain ⟨count, precision, enough⟩ := precision_of_absValue positive bounded formed value
  refine ⟨(number.numeral .literal).text, number.numeral .literal, if_pos finite, ?_,
    Binary.isNearest_numeral (by decide) (by decide) finite, fun other otherFormed nearest => ?_⟩
  · rw [Numeral.text, String.toList_ofList]
    exact Numeral.read_toList formed
  · obtain ⟨digits, exponent, scaled, fits, -⟩ := Numeral.absValue_significant otherFormed
    have near := nearest.2
    rw [scaled] at near
    constructor
    · by_contra fewer
      have less : digits < 10 ^ count :=
        fits.trans_le (Nat.pow_le_pow_right (by decide) (by omega))
      exact not_nearest_fewer positive bounded less enough near
    · intro same
      rw [value, scaled]
      rw [same, precision] at fits
      exact decimal_closest positive bounded fits enough near

/-- Seven times the least positive number. The digit nine on the next finer grid is too far from it. -/
theorem literal_shortest_seven :
    (ofWord 7).isFinite = true ∧ (ofWord 7).magnitude ≠ 0 ∧ (ofWord 7).literal? = some "1e-44" ∧
      ∃ numeral, Numeral.read? "1e-44".toList = some numeral ∧ (ofWord 7).IsNearest numeral ∧
        ∀ other : Numeral, other.WellFormed → (ofWord 7).IsNearest other →
          numeral.precision ≤ other.precision ∧
            (other.precision = numeral.precision →
              |numeral.absValue - Format.single.value 7| ≤
                |other.absValue - Format.single.value 7|) := by
  have finite : (ofWord 7).isFinite = true := by decide
  have nonzero : (ofWord 7).magnitude ≠ 0 := by decide
  have written : (ofWord 7).literal? = some "1e-44" := by decide +kernel
  obtain ⟨text, numeral, shown, read, rest⟩ := literal_shortest (ofWord 7) finite nonzero
  rw [written] at shown
  cases shown
  exact ⟨finite, nonzero, written, numeral, read, rest⟩

end Single

end ShadeTree.Number
