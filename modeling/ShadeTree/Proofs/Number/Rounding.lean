import Mathlib.Tactic.Linarith
import Mathlib.Tactic.Ring
import ShadeTree.Number.Shortest

/-!
The shortest decimal of a number rounds to that number.

The grid that the search ends with contains the number itself, so the search finds a decimal. It
lies in the interval of the number, and whatever lies there rounds to the number.
-/

namespace ShadeTree.Number

/-! ### Rounding -/

/-- A quotient that is at most half a unit off is rounded to the integer, a tie only to an even one. -/
theorem roundQuotient_eq {numerator denominator integer : Nat} (positive : 0 < denominator)
    (low : 2 * (integer * denominator) ≤ 2 * numerator + denominator)
    (high : 2 * numerator ≤ 2 * (integer * denominator) + denominator)
    (strict : integer % 2 = 1 → 2 * (integer * denominator) < 2 * numerator + denominator ∧
      2 * numerator < 2 * (integer * denominator) + denominator) :
    roundQuotient numerator denominator = integer := by
  have division := Nat.div_add_mod numerator denominator
  have remainder := Nat.mod_lt numerator positive
  unfold roundQuotient
  dsimp only
  generalize numerator / denominator = quotient at *
  generalize numerator % denominator = rest at *
  have commuted : denominator * quotient = quotient * denominator := Nat.mul_comm _ _
  rcases Nat.lt_trichotomy quotient integer with below | equal | above
  · have next : quotient + 1 = integer := by
      by_contra other
      have far : (quotient + 2) * denominator ≤ integer * denominator :=
        Nat.mul_le_mul_right _ (by omega)
      rw [Nat.add_mul] at far
      omega
    subst next
    rw [Nat.add_mul, Nat.one_mul] at low high strict
    split
    · omega
    · split
      · rfl
      · have tie : 2 * rest = denominator := by omega
        have odd : quotient % 2 = 1 := by
          by_contra even
          have strictly := strict (by omega)
          omega
        omega
  · subst equal
    split
    · rfl
    · split
      · omega
      · have even : quotient % 2 = 0 := by
          by_contra odd
          have strictly := strict (by omega)
          omega
        omega
  · have far : (integer + 1) * denominator ≤ quotient * denominator :=
      Nat.mul_le_mul_right _ (by omega)
    rw [Nat.add_mul] at far
    omega

namespace Format

variable {format : Format} {magnitude numerator denominator : Nat}

/-- A magnitude is its scale and its significand. -/
theorem scale_add_significand (format : Format) (magnitude : Nat) :
    format.scale magnitude * Nat.pow 2 format.fractionBits + format.significand magnitude =
      magnitude := by
  have positive : 0 < Nat.pow 2 format.fractionBits := Nat.two_pow_pos _
  have division := Nat.div_add_mod magnitude (Nat.pow 2 format.fractionBits)
  have remainder := Nat.mod_lt magnitude positive
  unfold scale significand
  dsimp only
  generalize Nat.pow 2 format.fractionBits = implicit at *
  split
  · rename_i small
    have quotient : magnitude / implicit - 1 = 0 := by
      have := (Nat.div_lt_iff_lt_mul positive).mpr small
      omega
    simp [quotient]
  · rename_i large
    have quotient : 1 < magnitude / implicit := (Nat.le_div_iff_mul_le positive).mpr (by omega)
    obtain ⟨above, equal⟩ : ∃ above, magnitude / implicit = above + 1 :=
      ⟨_, (Nat.succ_pred_eq_of_pos (by omega)).symm⟩
    rw [equal, Nat.mul_add, Nat.mul_one, Nat.mul_comm] at division
    rw [equal, Nat.add_sub_cancel]
    omega

/-- A significand has one bit more than the fraction. -/
theorem significand_lt (format : Format) (magnitude : Nat) :
    format.significand magnitude < 2 * Nat.pow 2 format.fractionBits := by
  have positive : 0 < Nat.pow 2 format.fractionBits := Nat.two_pow_pos _
  unfold significand
  dsimp only
  split
  · assumption
  · have remainder := Nat.mod_lt magnitude positive
    omega

/-- Only numbers of the lowest scale have a significand without the implicit bit. -/
theorem implicit_le (format : Format) (magnitude : Nat) (scaled : 0 < format.scale magnitude) :
    Nat.pow 2 format.fractionBits ≤ format.significand magnitude := by
  have positive : 0 < Nat.pow 2 format.fractionBits := Nat.two_pow_pos _
  unfold significand scale at *
  dsimp only at *
  split
  · rename_i small
    have quotient := (Nat.div_lt_iff_lt_mul positive).mpr small
    omega
  · omega

theorem pow_two_add (first second : Nat) :
    Nat.pow 2 (first + second) = Nat.pow 2 first * Nat.pow 2 second :=
  Nat.pow_add 2 first second

/-- How many bits of a quotient lie beyond the first ones. -/
theorem log2_sub_eq {quotient bits scale : Nat} (high : quotient < Nat.pow 2 (bits + scale + 1))
    (low : scale = 0 ∨ Nat.pow 2 (bits + scale) ≤ quotient) : quotient.log2 - bits = scale := by
  by_cases zero : quotient = 0
  · subst zero
    obtain rfl | low := low
    · simp
    · have positive : 0 < Nat.pow 2 (bits + scale) := Nat.two_pow_pos _
      omega
  · have upper := (Nat.log2_lt zero).mpr high
    obtain rfl | low := low
    · omega
    · have lower := (Nat.le_log2 zero).mpr low
      omega

/-- The significand of a number that is not zero is positive. -/
theorem significand_pos (format : Format) (nonzero : 0 < magnitude) :
    0 < format.significand magnitude := by
  by_contra none
  have whole := format.scale_add_significand magnitude
  have scaleZero : format.scale magnitude = 0 := by
    by_contra some
    have implicit := format.implicit_le magnitude (by omega)
    have positive : 0 < Nat.pow 2 format.fractionBits := Nat.two_pow_pos _
    omega
  rw [scaleZero] at whole
  omega

end Format

/-- The interval of a number reaches half a unit to both sides, a quarter of one below the first
significand of a scale. -/
theorem Interval.around_bounds {format : Format} {magnitude denominator scaled : Nat}
    (nonzero : 0 < magnitude) (inside : (around format magnitude).contains 4 denominator scaled) :
    let unit := Nat.pow 2 (format.scale magnitude) * denominator
    let centre := format.significand magnitude * unit
    2 * centre ≤ 2 * scaled + unit ∧ 2 * scaled ≤ 2 * centre + unit ∧
      (format.significand magnitude % 2 = 1 →
        2 * centre < 2 * scaled + unit ∧ 2 * scaled < 2 * centre + unit) ∧
      (format.significand magnitude = Nat.pow 2 format.fractionBits → 0 < format.scale magnitude →
        4 * centre ≤ 4 * scaled + unit) := by
  dsimp only
  have significandPositive := format.significand_pos nonzero
  unfold around contains at inside
  dsimp only at inside
  generalize format.significand magnitude = significand at *
  generalize format.scale magnitude = scale at *
  generalize Nat.pow 2 format.fractionBits = implicit at *
  obtain ⟨below, rfl⟩ : ∃ below, significand = below + 1 := ⟨significand - 1, by omega⟩
  have quarter : (4 * (below + 1) - 1) * Nat.pow 2 scale * denominator =
      4 * (below * (Nat.pow 2 scale * denominator)) + 3 * (Nat.pow 2 scale * denominator) := by
    rw [show 4 * (below + 1) - 1 = 4 * below + 3 by omega]
    ring
  have half : (4 * (below + 1) - 2) * Nat.pow 2 scale * denominator =
      4 * (below * (Nat.pow 2 scale * denominator)) + 2 * (Nat.pow 2 scale * denominator) := by
    rw [show 4 * (below + 1) - 2 = 4 * below + 2 by omega]
    ring
  have high : (4 * (below + 1) + 2) * Nat.pow 2 scale * denominator =
      4 * (below * (Nat.pow 2 scale * denominator)) + 6 * (Nat.pow 2 scale * denominator) := by
    ring
  rw [Nat.add_mul below 1, Nat.one_mul]
  by_cases halved : below + 1 = implicit ∧ 0 < scale
  · have shown : (below + 1 == implicit && decide (0 < scale)) = true := by simpa using halved
    simp only [shown, if_true, quarter, high] at inside
    by_cases even : (below + 1) % 2 = 0
    · simp only [even, beq_self_eq_true, if_true, Bool.and_eq_true, decide_eq_true_eq] at inside
      omega
    · simp only [beq_iff_eq, even, if_false, Bool.and_eq_true, decide_eq_true_eq] at inside
      omega
  · have shown : (below + 1 == implicit && decide (0 < scale)) = false := by simpa using halved
    simp only [shown, Bool.false_eq_true, if_false, half, high] at inside
    by_cases even : (below + 1) % 2 = 0
    · simp only [even, beq_self_eq_true, if_true, Bool.and_eq_true, decide_eq_true_eq] at inside
      omega
    · simp only [beq_iff_eq, even, if_false, Bool.and_eq_true, decide_eq_true_eq] at inside
      omega

namespace Format

/-- The scale of a quotient is found from its logarithm. -/
theorem log2_quotient_eq {bits scale scaled denominator : Nat} (positive : 0 < denominator)
    (high : scaled < 2 * (Nat.pow 2 bits * (Nat.pow 2 scale * denominator)))
    (low : scale = 0 ∨ Nat.pow 2 bits * (Nat.pow 2 scale * denominator) ≤ scaled) :
    (scaled / denominator).log2 - bits = scale := by
  apply log2_sub_eq
  · rw [pow_two_add, pow_two_add, Nat.div_lt_iff_lt_mul positive]
    calc
      scaled < 2 * (Nat.pow 2 bits * (Nat.pow 2 scale * denominator)) := high
      _ = Nat.pow 2 bits * Nat.pow 2 scale * Nat.pow 2 1 * denominator := by
          rw [show Nat.pow 2 1 = 2 from rfl]
          ring
  · refine low.imp_right fun low => ?_
    rw [pow_two_add, Nat.le_div_iff_mul_le positive, Nat.mul_assoc]
    exact low

/-- A number whose interval contains the fraction is what the fraction is rounded to. If the fraction
lies below the first significand of a scale, the next lower scale is taken, and the rounding
carries. -/
theorem round_eq {format : Format} {magnitude numerator denominator : Nat}
    (positive : 0 < denominator) (nonzero : 0 < magnitude) (finite : magnitude < format.infinity)
    (inside : (Interval.around format magnitude).contains 4 denominator
      (numerator * Nat.pow 2 format.bias)) :
    format.round numerator denominator = magnitude := by
  have whole := format.scale_add_significand magnitude
  have bounded := format.significand_lt magnitude
  have implicit := format.implicit_le magnitude
  obtain ⟨low, high, strict, quarter⟩ := Interval.around_bounds nonzero inside
  have implicitPositive : 0 < Nat.pow 2 format.fractionBits := Nat.two_pow_pos _
  unfold round
  dsimp only
  generalize numerator * Nat.pow 2 format.bias = scaled at *
  generalize format.significand magnitude = significand at *
  generalize format.scale magnitude = scale at *
  have unitPositive : 0 < Nat.pow 2 scale * denominator := Nat.mul_pos (Nat.two_pow_pos _) positive
  have below : (significand + 1) * (Nat.pow 2 scale * denominator) ≤
      2 * Nat.pow 2 format.fractionBits * (Nat.pow 2 scale * denominator) :=
    Nat.mul_le_mul_right _ bounded
  rw [Nat.add_mul, Nat.mul_assoc 2] at below
  by_cases carries : 0 < scale ∧
      scaled < Nat.pow 2 format.fractionBits * (Nat.pow 2 scale * denominator)
  · have first : significand = Nat.pow 2 format.fractionBits := by
      by_contra other
      have above : (Nat.pow 2 format.fractionBits + 1) * (Nat.pow 2 scale * denominator) ≤
          significand * (Nat.pow 2 scale * denominator) :=
        Nat.mul_le_mul_right _ (by have := implicit carries.1; omega)
      rw [Nat.add_mul] at above
      omega
    obtain ⟨lower, rfl⟩ : ∃ lower, scale = lower + 1 := ⟨scale - 1, by omega⟩
    have close := quarter first carries.1
    have smaller : scaled < _ := carries.2
    rw [first] at close whole
    have unit : Nat.pow 2 (lower + 1) * denominator = 2 * (Nat.pow 2 lower * denominator) := by
      rw [pow_two_add, show Nat.pow 2 1 = 2 from rfl]
      ring
    have doubled : Nat.pow 2 format.fractionBits * (2 * (Nat.pow 2 lower * denominator)) =
        2 * (Nat.pow 2 format.fractionBits * (Nat.pow 2 lower * denominator)) := by ring
    have least : Nat.pow 2 lower * denominator ≤
        Nat.pow 2 format.fractionBits * (Nat.pow 2 lower * denominator) :=
      Nat.le_mul_of_pos_left _ implicitPositive
    rw [unit, doubled] at close smaller
    have scaleEq := log2_quotient_eq positive smaller (.inr (by omega))
    have product : 2 * Nat.pow 2 format.fractionBits * (denominator * Nat.pow 2 lower) =
        2 * (Nat.pow 2 format.fractionBits * (Nat.pow 2 lower * denominator)) := by ring
    have rounded : roundQuotient scaled (denominator * Nat.pow 2 lower) =
        2 * Nat.pow 2 format.fractionBits := by
      apply roundQuotient_eq
      · exact Nat.mul_pos positive (Nat.two_pow_pos _)
      · rw [product, Nat.mul_comm denominator]
        omega
      · rw [product, Nat.mul_comm denominator]
        omega
      · omega
    rw [scaleEq, rounded]
    rw [Nat.add_mul] at whole
    omega
  · have scaleEq : (scaled / denominator).log2 - format.fractionBits = scale :=
      log2_quotient_eq positive (by omega) (by omega)
    have rounded : roundQuotient scaled (denominator * Nat.pow 2 scale) = significand := by
      rw [Nat.mul_comm denominator]
      exact roundQuotient_eq unitPositive low high strict
    rw [scaleEq, rounded]
    omega

end Format

/-! ### The search -/

/-- A tie is broken to one side or the other. -/
theorem Tie.choose_eq (tie : Tie) (below : Nat) :
    tie.choose below = below ∨ tie.choose below = below + 1 := by
  cases tie with
  | upper => exact .inr rfl
  | even =>
      unfold choose
      dsimp only
      omega

namespace Interval

variable {format : Format} {tie : Tie} {interval : Interval} {step split point : Nat}

/-- A grid point that is found lies in the interval. -/
theorem gridPoint_contains (found : interval.gridPoint? tie step split = some point) :
    interval.contains step split point := by
  unfold gridPoint? at found
  dsimp only at found
  split at found
  · rename_i below above
    have either : point = interval.centre * split / step ∨
        point = interval.centre * split / step + 1 := by
      split at found
      · exact .inl (Option.some.inj found).symm
      · split at found
        · exact .inr (Option.some.inj found).symm
        · exact Option.some.inj found ▸ tie.choose_eq _
    obtain rfl | rfl := either
    · exact below
    · exact above
  · cases found
    assumption
  · cases found
    assumption
  · cases found

/-- Whether a point lies in an interval does not depend on the grid that it is given on. -/
theorem contains_congr {other place : Nat} (same : point * step = place * other) :
    interval.contains step split point = interval.contains other split place := by
  unfold contains
  rw [same]

/-- If the last grid has a point in the interval, then the search ends with a grid that has one. -/
theorem search_gridPoint (exponent : Int) (grids : Nat)
    (last : (interval.gridPoint? tie (grid format (exponent - grids)).1
      (grid format (exponent - grids)).2).isSome) :
    let decimal := interval.search format tie exponent (grids + 1)
    interval.gridPoint? tie (grid format decimal.exponent).1 (grid format decimal.exponent).2 =
      some decimal.digits := by
  dsimp only
  induction grids generalizing exponent with
  | zero =>
      obtain ⟨digits, found⟩ := Option.isSome_iff_exists.mp last
      rw [Int.natCast_zero, Int.sub_zero] at found
      rw [search]
      simp only [found]
  | succ grids ih =>
      rw [search]
      cases found : interval.gridPoint? tie (grid format exponent).1 (grid format exponent).2 with
      | some digits => simp only [found]
      | none =>
          simp only [found]
          apply ih
          have next : exponent - 1 - (grids : Int) = exponent - ((grids + 1 : Nat) : Int) := by omega
          rw [next]
          exact last

/-- A grid has a point in the interval when the last one below the centre is in it. -/
theorem gridPoint_isSome
    (below : interval.contains step split (interval.centre * split / step)) :
    (interval.gridPoint? tie step split).isSome := by
  unfold gridPoint?
  dsimp only
  rw [below]
  split
  · split
    · rfl
    · split
      · rfl
      · rfl
  · rfl
  · rename_i impossible _
    cases impossible
  · rename_i impossible _
    cases impossible

/-- The centre lies inside, and the interval is at least three quarters of a unit wide. -/
theorem around_order (format : Format) {magnitude : Nat} (nonzero : 0 < magnitude) :
    (around format magnitude).low < (around format magnitude).centre ∧
      (around format magnitude).centre < (around format magnitude).high ∧
      (around format magnitude).low + 3 * Nat.pow 2 (format.scale magnitude) ≤
        (around format magnitude).high := by
  have significandPositive := format.significand_pos nonzero
  have unitPositive : 0 < Nat.pow 2 (format.scale magnitude) := Nat.two_pow_pos _
  unfold around
  dsimp only
  refine ⟨Nat.mul_lt_mul_of_pos_right ?_ unitPositive,
    Nat.mul_lt_mul_of_pos_right (by omega) unitPositive, ?_⟩
  · split
    · omega
    · omega
  · rw [← Nat.add_mul]
    apply Nat.mul_le_mul_right
    split
    · omega
    · omega

/-- The centre belongs to its interval. -/
theorem around_contains_centre {magnitude : Nat} (nonzero : 0 < magnitude) (positive : 0 < split)
    (central : point * step = (around format magnitude).centre * split) :
    (around format magnitude).contains step split point := by
  obtain ⟨low, high, -⟩ := around_order format nonzero
  have lowSplit := Nat.mul_lt_mul_of_pos_right low positive
  have highSplit := Nat.mul_lt_mul_of_pos_right high positive
  unfold contains
  rw [central]
  split
  · simp [lowSplit.le, highSplit.le]
  · simp [lowSplit, highSplit]

/-- The grid of ten to the power of minus the bias contains every number. -/
theorem gridPoint_bias {magnitude : Nat} (nonzero : 0 < magnitude) :
    ((around format magnitude).gridPoint? tie (grid format (-format.bias)).1
      (grid format (-format.bias)).2).isSome := by
  have step : (grid format (-format.bias)).1 = 4 * Nat.pow 2 format.bias := by
    simp [grid]
  have split : (grid format (-format.bias)).2 = Nat.pow 10 format.bias := by
    simp [grid]
  have even : Nat.pow 10 format.bias = Nat.pow 2 format.bias * Nat.pow 5 format.bias :=
    Nat.mul_pow 2 5 format.bias
  have stepPositive : 0 < 4 * Nat.pow 2 format.bias := Nat.mul_pos (by decide) (Nat.two_pow_pos _)
  have divisible : (around format magnitude).centre * Nat.pow 10 format.bias =
      format.significand magnitude * Nat.pow 2 (format.scale magnitude) * Nat.pow 5 format.bias *
        (4 * Nat.pow 2 format.bias) := by
    rw [even]
    unfold around
    ring
  rw [step, split]
  apply gridPoint_isSome
  have splitPositive : 0 < Nat.pow 10 format.bias := Nat.pow_pos (by decide)
  apply around_contains_centre nonzero splitPositive
  rw [divisible, Nat.mul_div_cancel _ stepPositive]

end Interval

/-- The shortest decimal of a number is a point of its grid that lies in the interval. -/
theorem shortest_gridPoint {format : Format} {magnitude : Nat} (tie : Tie) (nonzero : 0 < magnitude) :
    let decimal := shortest format tie magnitude
    (Interval.around format magnitude).gridPoint? tie (Interval.grid format decimal.exponent).1
      (Interval.grid format decimal.exponent).2 = some decimal.digits := by
  apply Interval.search_gridPoint
  have reached : (format.decimalBound : Int) - ((format.decimalBound + format.bias : Nat) : Int) =
      -format.bias := by omega
  rw [reached]
  exact Interval.gridPoint_bias nonzero

/-- The shortest decimal of a number rounds to the number. -/
theorem round_shortest {format : Format} {magnitude : Nat} (tie : Tie) (nonzero : 0 < magnitude)
    (finite : magnitude < format.infinity) :
    let decimal := shortest format tie magnitude
    format.round (decimal.digits * Nat.pow 10 decimal.exponent.toNat)
      (Nat.pow 10 (-decimal.exponent).toNat) = magnitude := by
  dsimp only
  apply Format.round_eq (Nat.pow_pos (by decide)) nonzero finite
  rw [← Interval.gridPoint_contains (shortest_gridPoint tie nonzero)]
  apply Interval.contains_congr
  unfold Interval.grid
  ring

end ShadeTree.Number
