import ShadeTree.Proofs.Number.Grid

/-!
The interval of a number.

The points of a grid that lie in the interval of a number are those that have it for the nearest number.
Both are counted in a common measure.
-/

namespace ShadeTree.Number

namespace Format

variable {format : Format} {magnitude below point : Nat} {exponent : Int}

/-! ### Intervals between middles -/

/-- What a count of quarters of the unit stands for. -/
def quarters (format : Format) (count : Nat) : ℚ :=
  count / (4 * 2 ^ format.bias)

theorem quarters_scaled (format : Format) (units scale : Nat) :
    format.quarters (units * Nat.pow 2 scale) = units / 4 * format.unit scale := by
  rw [quarters, unit, Nat.cast_mul, cast_pow_two]
  field_simp

/-- The centre of an interval stands for the number itself. -/
theorem quarters_centre (format : Format) (magnitude : Nat) :
    format.quarters (Interval.around format magnitude).centre = format.value magnitude := by
  rw [Interval.around, quarters_scaled, value]
  push_cast
  ring

/-- The high end of an interval stands for the middle above the number. -/
theorem quarters_high (format : Format) (magnitude : Nat) :
    format.quarters (Interval.around format magnitude).high = format.middle magnitude := by
  rw [Interval.around, quarters_scaled, middle_eq]
  push_cast
  ring

/-- Below the first significand of a scale the middle is only a quarter of a unit away. -/
theorem quarters_low (next : below + 1 = magnitude) :
    format.quarters (Interval.around format magnitude).low = format.middle below := by
  have whole := format.scale_add_significand magnitude
  have fits := format.significand_lt magnitude
  have normal := format.implicit_le magnitude
  have positive := format.significand_pos (by omega : 0 < magnitude)
  have centre : format.value magnitude =
    format.significand magnitude * format.unit (format.scale magnitude) := rfl
  have implicitPositive : 0 < Nat.pow 2 format.fractionBits := Nat.two_pow_pos _
  rw [middle, next, centre, Interval.around, quarters_scaled]
  generalize format.significand magnitude = significand at *
  generalize format.scale magnitude = scale at *
  obtain ⟨fewer, rfl⟩ : ∃ fewer, significand = fewer + 1 := ⟨significand - 1, by omega⟩
  by_cases halved : fewer + 1 = Nat.pow 2 format.fractionBits ∧ 0 < scale
  · -- the number below has the last significand of the next lower scale
    obtain ⟨first, scaled⟩ := halved
    obtain ⟨lower, rfl⟩ : ∃ lower, scale = lower + 1 := ⟨scale - 1, by omega⟩
    have place : below = lower * Nat.pow 2 format.fractionBits + (2 * fewer + 1) := by
      rw [Nat.add_mul, Nat.one_mul, ← first] at whole
      rw [← first]
      omega
    have value : format.value (lower * Nat.pow 2 format.fractionBits + (2 * fewer + 1)) =
        (2 * fewer + 1 : Nat) * format.unit lower := format.value_eq (.inr (by omega)) (by omega)
    have quarters : 4 * (fewer + 1) - 1 = 4 * fewer + 3 := by omega
    rw [place, value, unit_succ, if_pos (by simp [first]), quarters]
    push_cast
    ring
  · have place : below = scale * Nat.pow 2 format.fractionBits + fewer := by omega
    have value : format.value (scale * Nat.pow 2 format.fractionBits + fewer) =
        fewer * format.unit scale := format.value_eq (by omega) (by omega)
    have quarters : 4 * (fewer + 1) - 2 = 4 * fewer + 2 := by omega
    rw [place, value, if_neg (by simpa using halved), quarters]
    push_cast
    ring

/-! ### Points of a grid -/

/-- The common measure of the points of a grid and the quarters of the unit. -/
def part (format : Format) (exponent : Int) : ℚ :=
  (4 * 2 ^ format.bias * (Interval.grid format exponent).2)⁻¹

theorem part_pos (format : Format) (exponent : Int) : 0 < format.part exponent := by
  have split : (0 : ℚ) < (Interval.grid format exponent).2 := by exact_mod_cast pow_ten_pos _
  unfold part
  positivity

/-- A decimal as a count of the common measure. -/
theorem point_eq (format : Format) (point : Nat) (exponent : Int) :
    (point * 10 ^ exponent : ℚ) =
      (point * (Interval.grid format exponent).1 : Nat) * format.part exponent := by
  have split : (0 : ℚ) < (Nat.pow 10 (-exponent).toNat : Nat) := by exact_mod_cast pow_ten_pos _
  rw [← cast_decimal, part, Interval.grid]
  push_cast [cast_pow_two]
  field_simp

/-- Quarters of the unit as a count of the common measure. -/
theorem quarters_eq (format : Format) (count : Nat) (exponent : Int) :
    format.quarters count =
      (count * (Interval.grid format exponent).2 : Nat) * format.part exponent := by
  have split : (0 : ℚ) < (Interval.grid format exponent).2 := by exact_mod_cast pow_ten_pos _
  rw [quarters, part]
  push_cast
  field_simp

/-- The distance of a decimal from a number as a count of the common measure. -/
theorem abs_point_sub_value (format : Format) (point : Nat) (exponent : Int) (magnitude : Nat) :
    |point * 10 ^ exponent - format.value magnitude| =
      |(point * (Interval.grid format exponent).1 -
        ((Interval.around format magnitude).centre * (Interval.grid format exponent).2 : Nat) :
          Int)| * format.part exponent := by
  rw [← quarters_centre, format.quarters_eq _ exponent, format.point_eq, ← sub_mul, abs_mul,
    abs_of_pos (format.part_pos exponent)]
  push_cast
  rfl

/-- A decimal is at least so many quarters exactly when the counts are so ordered. -/
theorem quarters_le_point_iff {count : Nat} :
    format.quarters count ≤ point * 10 ^ exponent ↔
      count * (Interval.grid format exponent).2 ≤ point * (Interval.grid format exponent).1 := by
  rw [format.quarters_eq count exponent, format.point_eq,
    mul_le_mul_iff_of_pos_right (format.part_pos exponent), Nat.cast_le]

/-- A decimal is at most so many quarters exactly when the counts are so ordered. -/
theorem point_le_quarters_iff {count : Nat} :
    point * 10 ^ exponent ≤ format.quarters count ↔
      point * (Interval.grid format exponent).1 ≤ count * (Interval.grid format exponent).2 := by
  rw [format.quarters_eq count exponent, format.point_eq,
    mul_le_mul_iff_of_pos_right (format.part_pos exponent), Nat.cast_le]

/-- A magnitude is even exactly when its significand is. -/
theorem even_significand_iff (wide : 0 < format.fractionBits) :
    format.significand magnitude % 2 = 0 ↔ magnitude % 2 = 0 := by
  have whole := format.scale_add_significand magnitude
  have multiple : 2 ∣ format.scale magnitude * Nat.pow 2 format.fractionBits :=
    (dvd_pow_self 2 wide.ne').mul_left _
  omega

/-- The ends of an interval are the middles around the number, and belong to it if the number is even. -/
theorem contains_iff (wide : 0 < format.fractionBits) (next : below + 1 = magnitude) :
    (Interval.around format magnitude).contains (Interval.grid format exponent).1
        (Interval.grid format exponent).2 point ↔
      if magnitude % 2 = 0 then
        format.middle below ≤ point * 10 ^ exponent ∧
          point * 10 ^ exponent ≤ format.middle magnitude
      else
        format.middle below < point * 10 ^ exponent ∧
          point * 10 ^ exponent < format.middle magnitude := by
  have closed : (Interval.around format magnitude).closed =
    (format.significand magnitude % 2 == 0) := rfl
  rw [← quarters_low next, ← quarters_high, Interval.contains, closed]
  by_cases even : magnitude % 2 = 0
  · rw [if_pos even, if_pos (beq_iff_eq.mpr ((even_significand_iff wide).mpr even)),
      quarters_le_point_iff, point_le_quarters_iff, Bool.and_eq_true, decide_eq_true_eq,
      decide_eq_true_eq]
  · rw [if_neg even, if_neg (mt beq_iff_eq.mp (mt (even_significand_iff wide).mp even)),
      Bool.and_eq_true, decide_eq_true_eq, decide_eq_true_eq, ← Nat.not_le, ← Nat.not_le, ← not_le,
      ← not_le, point_le_quarters_iff, quarters_le_point_iff]

/-- The points in the interval of a number are those that have it for the nearest number. -/
theorem nearest_iff_contains (wide : 0 < format.fractionBits) (nonzero : 0 < magnitude)
    (finite : magnitude < format.infinity) :
    format.Nearest (point * 10 ^ exponent) magnitude ↔
      (Interval.around format magnitude).contains (Interval.grid format exponent).1
        (Interval.grid format exponent).2 point := by
  obtain ⟨below, next⟩ : ∃ below, below + 1 = magnitude := ⟨magnitude - 1, by omega⟩
  rw [contains_iff wide next]
  constructor
  · intro nearest
    obtain ⟨above, even⟩ := nearest.between.above below next
    obtain ⟨under, alsoEven⟩ := nearest.between.below finite
    split
    · exact ⟨above, under⟩
    · rename_i odd
      exact ⟨lt_of_le_of_ne above (mt even odd), lt_of_le_of_ne under (mt alsoEven odd)⟩
  · intro inside
    refine Between.nearest ⟨fun other same => ?_, fun _ => ?_⟩ finite.le
    · obtain rfl : below = other := by omega
      split at inside
      · rename_i even
        exact ⟨inside.1, fun _ => even⟩
      · exact ⟨inside.1.le, fun equal => absurd equal inside.1.ne⟩
    · split at inside
      · rename_i even
        exact ⟨inside.2, fun _ => even⟩
      · exact ⟨inside.2.le, fun equal => absurd equal inside.2.ne⟩

/-- What lies between two rationals that have the number for the nearest one has it too. -/
theorem Nearest.convex {low exact high : ℚ} (first : format.Nearest low magnitude)
    (second : format.Nearest high magnitude) (above : low ≤ exact) (below : exact ≤ high) :
    format.Nearest exact magnitude := by
  refine Between.nearest ⟨fun lower next => ?_, fun finite => ?_⟩ first.bounded
  · obtain ⟨passed, even⟩ := first.between.above lower next
    exact ⟨passed.trans above, fun equal => even (le_antisymm passed (equal ▸ above))⟩
  · obtain ⟨reached, even⟩ := second.between.below finite
    exact ⟨below.trans reached, fun equal => even (le_antisymm reached (equal ▸ below))⟩

end Format

end ShadeTree.Number
