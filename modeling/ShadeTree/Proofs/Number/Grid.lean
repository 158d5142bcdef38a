import ShadeTree.Proofs.Number.Literal

/-!
How coarse the grid of a shortest decimal is.

The grid before the one that is taken has no point in the interval of the number, so that its step is
at least as wide as the interval.
-/

namespace ShadeTree.Number

namespace Interval

variable {format : Format} {tie : Tie} {interval : Interval} {step split : Nat}

/-- A target lies between two neighbouring multiples of the step. -/
theorem target_between (positive : 0 < step) (target : Nat) :
    target / step * step ≤ target ∧ target < (target / step + 1) * step := by
  rw [Nat.add_mul, Nat.one_mul]
  exact ⟨Nat.div_mul_le_self _ _, Nat.lt_div_mul_add positive⟩

/-- A grid without a point in an interval around the centre is as wide as the interval. -/
theorem width_le_of_gridPoint_eq_none (positive : 0 < step) (splitPositive : 0 < split)
    (low : interval.low < interval.centre) (high : interval.centre < interval.high)
    (missed : interval.gridPoint? tie step split = none) :
    interval.high * split ≤ interval.low * split + step := by
  obtain ⟨under, passed⟩ := target_between positive (interval.centre * split)
  have lowSplit := Nat.mul_lt_mul_of_pos_right low splitPositive
  have highSplit := Nat.mul_lt_mul_of_pos_right high splitPositive
  unfold gridPoint? at missed
  dsimp only at missed
  generalize interval.centre * split / step = below at *
  have next : (below + 1) * step = below * step + step := by ring
  split at missed
  · split at missed
    · cases missed
    · split at missed
      · cases missed
      · cases missed
  · cases missed
  · cases missed
  · rename_i first second
    unfold contains at first second
    split at first
    · rename_i closed
      rw [if_pos closed] at second
      simp only [Bool.and_eq_false_iff, decide_eq_false_iff_not] at first second
      omega
    · rename_i opened
      rw [if_neg opened] at second
      simp only [Bool.and_eq_false_iff, decide_eq_false_iff_not] at first second
      omega

/-- The search stops at the first grid, or the grid before has no point. -/
theorem search_coarser (interval : Interval) (format : Format) (tie : Tie) (exponent : Int)
    (grids : Nat) :
    let decimal := interval.search format tie exponent grids
    decimal.exponent = exponent ∨
      interval.gridPoint? tie (grid format (decimal.exponent + 1)).1
        (grid format (decimal.exponent + 1)).2 = none := by
  induction grids generalizing exponent with
  | zero => exact .inl rfl
  | succ grids ih =>
      rw [search]
      cases found : interval.gridPoint? tie (grid format exponent).1 (grid format exponent).2 with
      | some digits =>
          simp only [found]
          exact .inl trivial
      | none =>
          simp only [found]
          rcases ih (exponent - 1) with stopped | missed
          · right
            rw [stopped, Int.sub_add_cancel]
            exact found
          · exact .inr missed

theorem grid_pos (format : Format) (exponent : Int) :
    0 < (grid format exponent).1 ∧ 0 < (grid format exponent).2 :=
  ⟨Nat.mul_pos (Nat.mul_pos (by decide) (Nat.two_pow_pos _)) (pow_ten_pos _), pow_ten_pos _⟩

/-- A grid without a point in the interval of a number has steps of three quarters of a unit at least. -/
theorem unit_le_of_gridPoint_eq_none {magnitude : Nat} {exponent : Int} (nonzero : 0 < magnitude)
    (missed : (around format magnitude).gridPoint? tie (grid format exponent).1
      (grid format exponent).2 = none) :
    3 / 4 * format.unit (format.scale magnitude) ≤ 10 ^ exponent := by
  obtain ⟨low, high, width⟩ := around_order format nonzero
  obtain ⟨stepPositive, splitPositive⟩ := grid_pos format exponent
  have coarse := width_le_of_gridPoint_eq_none stepPositive splitPositive low high missed
  have widthSplit := Nat.mul_le_mul_right (grid format exponent).2 width
  rw [Nat.add_mul] at widthSplit
  have enough : 3 * Nat.pow 2 (format.scale magnitude) * Nat.pow 10 (-exponent).toNat ≤
      4 * Nat.pow 2 format.bias * Nat.pow 10 exponent.toNat :=
    Nat.le_of_add_le_add_left (widthSplit.trans coarse)
  have power := cast_decimal 1 exponent
  rw [Nat.one_mul, Nat.cast_one, one_mul] at power
  have splitCast : (0 : ℚ) < (Nat.pow 10 (-exponent).toNat : Nat) := by
    exact_mod_cast splitPositive
  have biasPositive : (0 : ℚ) < 2 ^ format.bias := by positivity
  rw [← power, Format.unit, le_div_iff₀ splitCast, ← mul_div_assoc, div_mul_eq_mul_div,
    div_le_iff₀ biasPositive, ← cast_pow_two, ← cast_pow_two]
  have cast : ((3 * Nat.pow 2 (format.scale magnitude) * Nat.pow 10 (-exponent).toNat : Nat) : ℚ) ≤
      ((4 * Nat.pow 2 format.bias * Nat.pow 10 exponent.toNat : Nat) : ℚ) := by
    exact_mod_cast enough
  push_cast at cast
  linarith

end Interval

/-- No unit of a finite number exceeds the bound of the finite numbers. -/
theorem Format.unit_le_value_infinity {format : Format} {magnitude : Nat}
    (bounded : magnitude < format.infinity) :
    format.unit (format.scale magnitude) ≤ format.value format.infinity := by
  have next := format.value_strictMono.monotone (Nat.succ_le_of_lt bounded)
  have nonnegative := format.value_nonneg magnitude
  rw [Nat.succ_eq_add_one, Format.value_succ] at next
  linarith

/-- The next coarser grid is at least as wide as three quarters of a unit. -/
theorem unit_le_shortest {format : Format} {magnitude : Nat} (tie : Tie) (nonzero : 0 < magnitude)
    (bounded : magnitude < format.infinity)
    (least : format.value format.infinity ≤ 10 ^ format.decimalBound) :
    3 / 4 * format.unit (format.scale magnitude) ≤
      10 ^ ((shortest format tie magnitude).exponent + 1) := by
  have coarser := (Interval.around format magnitude).search_coarser format tie format.decimalBound
    (format.decimalBound + format.bias + 1)
  have decimal : (Interval.around format magnitude).search format tie format.decimalBound
    (format.decimalBound + format.bias + 1) = shortest format tie magnitude := rfl
  rw [decimal] at coarser
  dsimp only at coarser
  rcases coarser with first | missed
  · -- the first grid is coarser than any number
    have unit := Format.unit_le_value_infinity bounded
    have positive := format.unit_pos (format.scale magnitude)
    rw [first]
    calc
      3 / 4 * format.unit (format.scale magnitude) ≤ format.value format.infinity := by linarith
      _ ≤ 10 ^ format.decimalBound := least
      _ = 10 ^ (format.decimalBound : Int) := (zpow_natCast _ _).symm
      _ ≤ 10 ^ ((format.decimalBound : Int) + 1) :=
        zpow_le_zpow_right₀ (by norm_num) (by omega)
  · exact Interval.unit_le_of_gridPoint_eq_none nonzero missed

end ShadeTree.Number
