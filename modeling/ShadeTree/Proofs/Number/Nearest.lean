import Mathlib.Algebra.Order.Field.Rat
import Mathlib.Tactic.FieldSimp
import Mathlib.Tactic.Positivity
import ShadeTree.Proofs.Number.Rounding

/-!
The number that is nearest to a rational.

The numbers of a format lie on a line, with a middle between each and the next one. A number is
nearest to what lies between its two middles, and a middle itself belongs to the even one of its
neighbours. Rounding a fraction gives the number nearest to it.
-/

namespace ShadeTree.Number

theorem cast_pow_two (exponent : Nat) : ((Nat.pow 2 exponent : Nat) : ℚ) = 2 ^ exponent :=
  Nat.cast_pow 2 exponent

namespace Format

variable {format : Format} {magnitude other numerator denominator scale units : Nat} {exact : ℚ}

/-- How far numbers of a scale lie apart. -/
def unit (format : Format) (scale : Nat) : ℚ :=
  2 ^ scale / 2 ^ format.bias

/-- What a magnitude stands for. Infinity stands for the power of two behind the finite numbers. -/
def value (format : Format) (magnitude : Nat) : ℚ :=
  format.significand magnitude * format.unit (format.scale magnitude)

/-- Half way from a number to the next one. -/
def middle (format : Format) (magnitude : Nat) : ℚ :=
  (format.value magnitude + format.value (magnitude + 1)) / 2

/-- No other number is nearer, and if another one is as near, then the nearest is even. -/
structure Nearest (format : Format) (exact : ℚ) (magnitude : Nat) : Prop where
  bounded : magnitude ≤ format.infinity
  least : ∀ other ≤ format.infinity,
    |exact - format.value magnitude| ≤ |exact - format.value other|
  even : ∀ other ≤ format.infinity, other ≠ magnitude →
    |exact - format.value magnitude| = |exact - format.value other| → magnitude % 2 = 0

/-! ### The numbers on their line -/

theorem unit_pos (format : Format) (scale : Nat) : 0 < format.unit scale := by
  unfold unit
  positivity

/-- The unit doubles from one scale to the next. -/
theorem unit_succ (format : Format) (scale : Nat) :
    format.unit (scale + 1) = 2 * format.unit scale := by
  unfold unit
  ring

/-- Units grow with the scale. -/
theorem unit_mono (format : Format) : Monotone format.unit := by
  apply monotone_nat_of_le_succ
  intro scale
  rw [unit_succ]
  linarith [format.unit_pos scale]

/-- A significand that reaches the next power of two belongs to the next scale. -/
theorem value_eq (format : Format) (normal : scale = 0 ∨ Nat.pow 2 format.fractionBits ≤ units)
    (fits : units ≤ 2 * Nat.pow 2 format.fractionBits) :
    format.value (scale * Nat.pow 2 format.fractionBits + units) = units * format.unit scale := by
  have positive : 0 < Nat.pow 2 format.fractionBits := Nat.two_pow_pos _
  unfold value significand Format.scale
  dsimp only
  generalize Nat.pow 2 format.fractionBits = implicit at *
  by_cases carries : units = 2 * implicit
  · have shown : scale * implicit + units = implicit * (scale + 1 + 1) := by
      rw [carries]
      ring
    have large : ¬ implicit * (scale + 1 + 1) < 2 * implicit := by
      rw [Nat.mul_comm 2, Nat.mul_lt_mul_left positive]
      omega
    rw [shown, if_neg large, Nat.mul_div_cancel_left _ positive, Nat.mul_mod_right, carries,
      Nat.add_sub_cancel, unit_succ]
    push_cast
    ring
  · by_cases subnormal : units < implicit
    · obtain rfl : scale = 0 := by omega
      rw [Nat.zero_mul, Nat.zero_add, if_pos (by omega), Nat.div_eq_of_lt subnormal]
    · obtain ⟨fraction, rfl⟩ : ∃ fraction, units = implicit + fraction :=
        ⟨units - implicit, by omega⟩
      have small : fraction < implicit := by omega
      have shown : scale * implicit + (implicit + fraction) = fraction + implicit * (scale + 1) := by
        ring
      rw [shown, Nat.add_mul_div_left _ _ positive, Nat.div_eq_of_lt small,
        Nat.add_mul_mod_self_left, Nat.mod_eq_of_lt small, Nat.zero_add, Nat.add_sub_cancel]
      cases scale with
      | zero => simp [Nat.add_comm fraction]
      | succ scale =>
          have large : ¬ fraction + implicit * (scale + 1 + 1) < 2 * implicit := by
            have wide : implicit * 2 ≤ implicit * (scale + 1 + 1) :=
              Nat.mul_le_mul_left _ (by omega)
            omega
          rw [if_neg large, Nat.add_comm fraction]

/-- The next number is one unit away. -/
theorem value_succ (format : Format) (magnitude : Nat) :
    format.value (magnitude + 1) =
      format.value magnitude + format.unit (format.scale magnitude) := by
  have whole := format.scale_add_significand magnitude
  have fits := format.significand_lt magnitude
  have normal : format.scale magnitude = 0 ∨
      Nat.pow 2 format.fractionBits ≤ format.significand magnitude + 1 := by
    rcases Nat.eq_zero_or_pos (format.scale magnitude) with zero | scaled
    · exact .inl zero
    · exact .inr (Nat.le_succ_of_le (format.implicit_le magnitude scaled))
  have next := format.value_eq normal fits
  rw [← Nat.add_assoc, whole] at next
  rw [next, value]
  push_cast
  ring

theorem value_nonneg (format : Format) (magnitude : Nat) : 0 ≤ format.value magnitude :=
  mul_nonneg (Nat.cast_nonneg _) (format.unit_pos _).le

/-- Greater magnitudes stand for greater numbers. -/
theorem value_strictMono (format : Format) : StrictMono format.value := by
  apply strictMono_nat_of_lt_succ
  intro magnitude
  rw [value_succ]
  exact lt_add_of_pos_right _ (format.unit_pos _)

/-- Middles grow with the magnitude. -/
theorem middle_strictMono (format : Format) : StrictMono format.middle := by
  intro first second less
  have values := format.value_strictMono less
  have next := format.value_strictMono (Nat.succ_lt_succ less)
  unfold middle
  linarith

/-- A middle is half a unit above its number. -/
theorem middle_eq (format : Format) (magnitude : Nat) :
    format.middle magnitude =
      (format.significand magnitude + 1 / 2) * format.unit (format.scale magnitude) := by
  rw [middle, value_succ, value]
  ring

/-! ### Between the middles -/

/-- Of two numbers the one on the same side of their middle is nearer. -/
theorem abs_sub_le_iff_of_lt {low high : ℚ} (exact : ℚ) (less : low < high) :
    (|exact - high| ≤ |exact - low| ↔ (low + high) / 2 ≤ exact) ∧
      (|exact - low| ≤ |exact - high| ↔ exact ≤ (low + high) / 2) := by
  rw [← sq_le_sq, ← sq_le_sq]
  refine ⟨⟨fun squares => ?_, fun above => ?_⟩, fun squares => ?_, fun below => ?_⟩
  · nlinarith
  · nlinarith
  · nlinarith
  · nlinarith

/-- A number is nearest to what lies between its middles, and if it is even to the middles too. -/
structure Between (format : Format) (exact : ℚ) (magnitude : Nat) : Prop where
  above : ∀ below, below + 1 = magnitude →
    format.middle below ≤ exact ∧ (format.middle below = exact → magnitude % 2 = 0)
  below : magnitude < format.infinity →
    exact ≤ format.middle magnitude ∧ (exact = format.middle magnitude → magnitude % 2 = 0)

/-- A number is nearest to what lies between its middles. -/
theorem Between.nearest (between : format.Between exact magnitude)
    (bounded : magnitude ≤ format.infinity) : format.Nearest exact magnitude := by
  have compare : ∀ other ≤ format.infinity, other ≠ magnitude →
      |exact - format.value magnitude| ≤ |exact - format.value other| ∧
        (|exact - format.value magnitude| = |exact - format.value other| → magnitude % 2 = 0) := by
    intro other within different
    rcases Nat.lt_or_gt_of_ne different with lower | higher
    · obtain ⟨below, rfl⟩ : ∃ below, magnitude = below + 1 := ⟨magnitude - 1, by omega⟩
      obtain ⟨above, even⟩ := between.above below rfl
      have less := format.value_strictMono lower
      have order := format.value_strictMono.monotone (Nat.le_of_lt_succ lower)
      rw [middle] at above even
      refine ⟨(abs_sub_le_iff_of_lt _ less).1.mpr (by linarith), fun equal => even ?_⟩
      have reached := (abs_sub_le_iff_of_lt _ less).2.mp equal.ge
      linarith
    · obtain ⟨below, even⟩ := between.below (Nat.lt_of_lt_of_le higher within)
      have less := format.value_strictMono higher
      have order : format.value (magnitude + 1) ≤ format.value other :=
        format.value_strictMono.monotone (Nat.succ_le_of_lt higher)
      rw [middle] at below even
      refine ⟨(abs_sub_le_iff_of_lt _ less).2.mpr (by linarith), fun equal => even ?_⟩
      have reached := (abs_sub_le_iff_of_lt _ less).1.mp equal.ge
      linarith
  refine ⟨bounded, fun other within => ?_,
    fun other within different => (compare other within different).2⟩
  by_cases same : other = magnitude
  · rw [same]
  · exact (compare other within same).1

/-- What a number is nearest to lies between its middles. -/
theorem Nearest.between (nearest : format.Nearest exact magnitude) :
    format.Between exact magnitude where
  above below next := by
    have within : below ≤ format.infinity := by have := nearest.bounded; omega
    have less : format.value below < format.value magnitude :=
      format.value_strictMono (by omega)
    have sides := abs_sub_le_iff_of_lt exact less
    rw [middle, next]
    refine ⟨sides.1.mp (nearest.least below within), fun equal => ?_⟩
    apply nearest.even below within (by omega)
    exact le_antisymm (nearest.least below within) (sides.2.mpr equal.ge)
  below finite := by
    have less : format.value magnitude < format.value (magnitude + 1) :=
      format.value_strictMono (Nat.lt_succ_self _)
    have sides := abs_sub_le_iff_of_lt exact less
    refine ⟨sides.2.mp (nearest.least (magnitude + 1) finite), fun equal => ?_⟩
    apply nearest.even (magnitude + 1) finite (by omega)
    exact le_antisymm (nearest.least (magnitude + 1) finite) (sides.1.mpr equal.ge)

/-- There is one nearest number. Two would be neighbours, and both of them even. -/
theorem Nearest.unique (first : format.Nearest exact magnitude)
    (second : format.Nearest exact other) : magnitude = other := by
  wlog less : magnitude ≤ other generalizing magnitude other
  · exact (this second first (by omega)).symm
  by_contra different
  obtain ⟨below, rfl⟩ : ∃ below, other = below + 1 := ⟨other - 1, by omega⟩
  have finite : magnitude < format.infinity := by have := second.bounded; omega
  obtain ⟨low, lowEven⟩ := first.between.below finite
  obtain ⟨high, highEven⟩ := second.between.above below rfl
  have order : below ≤ magnitude := format.middle_strictMono.le_iff_le.mp (high.trans low)
  obtain rfl : below = magnitude := by omega
  have atMiddle := le_antisymm low high
  have firstEven := lowEven atMiddle
  have secondEven := highEven atMiddle.symm
  omega

/-! ### Rounding -/

theorem rest_lt_half {rest : Nat} (positive : 0 < denominator) :
    (rest / denominator : ℚ) < 1 / 2 ↔ 2 * rest < denominator := by
  have denominatorPositive : (0 : ℚ) < denominator := by exact_mod_cast positive
  rw [div_lt_div_iff₀ denominatorPositive two_pos, one_mul, mul_comm]
  exact_mod_cast Iff.rfl

theorem half_lt_rest {rest : Nat} (positive : 0 < denominator) :
    (1 / 2 : ℚ) < rest / denominator ↔ denominator < 2 * rest := by
  have denominatorPositive : (0 : ℚ) < denominator := by exact_mod_cast positive
  rw [div_lt_div_iff₀ two_pos denominatorPositive, one_mul, mul_comm]
  exact_mod_cast Iff.rfl

/-- A rounded quotient is at most half a unit off, and less if it is odd. -/
theorem roundQuotient_spec (positive : 0 < denominator) (numerator : Nat) :
    let rounded := roundQuotient numerator denominator
    (rounded - 1 / 2 : ℚ) ≤ numerator / denominator ∧
      (numerator / denominator : ℚ) ≤ rounded + 1 / 2 ∧
      (rounded % 2 = 1 → (rounded - 1 / 2 : ℚ) < numerator / denominator ∧
        (numerator / denominator : ℚ) < rounded + 1 / 2) := by
  have division := Nat.div_add_mod numerator denominator
  have remainder := Nat.mod_lt numerator positive
  have denominatorPositive : (0 : ℚ) < denominator := by exact_mod_cast positive
  unfold roundQuotient
  dsimp only
  generalize numerator / denominator = quotient at *
  generalize numerator % denominator = rest at *
  have shown : (numerator / denominator : ℚ) = quotient + rest / denominator := by
    rw [← division]
    push_cast
    field_simp
  have nonnegative : (0 : ℚ) ≤ rest / denominator := by positivity
  have proper : (rest / denominator : ℚ) < 1 := by
    rw [div_lt_one denominatorPositive]
    exact_mod_cast remainder
  rw [shown]
  split
  · rename_i low
    have half := (rest_lt_half positive).mpr low
    exact ⟨by linarith, by linarith, fun _ => ⟨by linarith, by linarith⟩⟩
  · rename_i notLow
    split
    · rename_i high
      have half := (half_lt_rest positive).mpr high
      push_cast
      exact ⟨by linarith, by linarith, fun _ => ⟨by linarith, by linarith⟩⟩
    · -- at a tie the even neighbour is taken
      rename_i notHigh
      have half : (rest / denominator : ℚ) = 1 / 2 :=
        le_antisymm (not_lt.mp (mt (half_lt_rest positive).mp notHigh))
          (not_lt.mp (mt (rest_lt_half positive).mp notLow))
      rcases Nat.mod_two_eq_zero_or_one quotient with even | odd
      · rw [even, Nat.add_zero, half]
        exact ⟨by linarith, by linarith, fun odd => by omega⟩
      · rw [odd, half]
        push_cast
        exact ⟨by linarith, by linarith, fun other => by omega⟩

/-- A fraction is scaled down only to as many digits as a significand has. -/
theorem log2_quotient_spec (bits scaled : Nat) (positive : 0 < denominator) :
    let scale := (scaled / denominator).log2 - bits
    scaled < 2 * Nat.pow 2 bits * (denominator * Nat.pow 2 scale) ∧
      (scale = 0 ∨ Nat.pow 2 bits * (denominator * Nat.pow 2 scale) ≤ scaled) := by
  dsimp only
  have upper : scaled / denominator < Nat.pow 2 ((scaled / denominator).log2 + 1) :=
    Nat.lt_log2_self
  by_cases few : (scaled / denominator).log2 ≤ bits
  · have quotient : scaled / denominator < Nat.pow 2 (bits + 1) :=
      upper.trans_le (Nat.pow_le_pow_right (by decide) (by omega))
    rw [Nat.div_lt_iff_lt_mul positive] at quotient
    rw [Nat.sub_eq_zero_of_le few]
    refine ⟨?_, .inl rfl⟩
    calc
      scaled < Nat.pow 2 (bits + 1) * denominator := quotient
      _ = 2 * Nat.pow 2 bits * (denominator * Nat.pow 2 0) := by
        rw [pow_two_add, show Nat.pow 2 1 = 2 from rfl, show Nat.pow 2 0 = 1 from rfl]
        ring
  · obtain ⟨scale, more⟩ : ∃ scale, (scaled / denominator).log2 = bits + scale :=
      ⟨(scaled / denominator).log2 - bits, by omega⟩
    have lower : Nat.pow 2 (bits + scale) ≤ scaled / denominator := by
      rw [← more]
      apply Nat.log2_self_le
      intro zero
      rw [zero] at few
      exact few (Nat.zero_le _)
    rw [more, Nat.div_lt_iff_lt_mul positive, pow_two_add, pow_two_add,
      show Nat.pow 2 1 = 2 from rfl] at upper
    rw [Nat.le_div_iff_mul_le positive, pow_two_add] at lower
    rw [more, Nat.add_sub_cancel_left]
    constructor
    · linarith
    · exact .inr (by linarith)

/-- A significand and a scale for a rational: the significand is at most half a unit off, and less if
it is odd; above the lowest scale it has all of its digits. -/
structure Rounded (format : Format) (exact : ℚ) (scale units : Nat) : Prop where
  fits : exact < 2 * 2 ^ format.fractionBits * format.unit scale
  normal : scale = 0 ∨ 2 ^ format.fractionBits * format.unit scale ≤ exact
  low : (units - 1 / 2) * format.unit scale ≤ exact
  high : exact ≤ (units + 1 / 2) * format.unit scale
  odd : units % 2 = 1 → (units - 1 / 2) * format.unit scale < exact ∧
    exact < (units + 1 / 2) * format.unit scale

/-- Rounding gives a rounded magnitude, or infinity if that is too great. -/
theorem round_spec (format : Format) (positive : 0 < denominator) (numerator : Nat) :
    ∃ scale units, format.Rounded (numerator / denominator) scale units ∧
      format.round numerator denominator =
        min (scale * Nat.pow 2 format.fractionBits + units) format.infinity := by
  obtain ⟨fits, normal⟩ := log2_quotient_spec format.fractionBits
    (numerator * Nat.pow 2 format.bias) positive
  generalize scaleEq : (numerator * Nat.pow 2 format.bias / denominator).log2 -
    format.fractionBits = scale at fits normal
  have unitPositive : 0 < denominator * Nat.pow 2 scale := Nat.mul_pos positive (Nat.two_pow_pos _)
  obtain ⟨low, high, odd⟩ := roundQuotient_spec unitPositive (numerator * Nat.pow 2 format.bias)
  generalize unitsEq : roundQuotient (numerator * Nat.pow 2 format.bias)
    (denominator * Nat.pow 2 scale) = units at low high odd
  refine ⟨scale, units, ?_, by rw [round, scaleEq, unitsEq]⟩
  have denominatorPositive : (0 : ℚ) < denominator := by exact_mod_cast positive
  have shown : (numerator / denominator : ℚ) =
      (numerator * Nat.pow 2 format.bias : Nat) / (denominator * Nat.pow 2 scale : Nat) *
        format.unit scale := by
    unfold unit
    rw [Nat.cast_mul, Nat.cast_mul, cast_pow_two, cast_pow_two]
    field_simp
  have step := format.unit_pos scale
  rw [shown]
  have stepNat : (0 : ℚ) < (denominator * Nat.pow 2 scale : Nat) := by exact_mod_cast unitPositive
  constructor
  · apply mul_lt_mul_of_pos_right _ step
    rw [div_lt_iff₀ stepNat, ← cast_pow_two]
    exact_mod_cast fits
  · refine normal.imp_right fun normal => mul_le_mul_of_nonneg_right ?_ step.le
    rw [le_div_iff₀ stepNat, ← cast_pow_two]
    exact_mod_cast normal
  · exact mul_le_mul_of_nonneg_right low step.le
  · exact mul_le_mul_of_nonneg_right high step.le
  · intro isOdd
    exact ⟨mul_lt_mul_of_pos_right (odd isOdd).1 step, mul_lt_mul_of_pos_right (odd isOdd).2 step⟩

/-- The significand is that of a magnitude, or the power of two behind those. -/
theorem Rounded.units_bounds (rounded : format.Rounded exact scale units) :
    (scale = 0 ∨ Nat.pow 2 format.fractionBits ≤ units) ∧
      units ≤ 2 * Nat.pow 2 format.fractionBits := by
  have step := format.unit_pos scale
  constructor
  · refine rounded.normal.imp_right fun normal => ?_
    have reached := le_of_mul_le_mul_right (normal.trans rounded.high) step
    by_contra fewer
    have less : (units : ℚ) + 1 ≤ 2 ^ format.fractionBits := by
      rw [← cast_pow_two]
      exact_mod_cast Nat.succ_le_of_lt (Nat.lt_of_not_le fewer)
    linarith
  · have reached := lt_of_mul_lt_mul_right (rounded.low.trans_lt rounded.fits) step.le
    by_contra more
    have least : 2 * 2 ^ format.fractionBits + 1 ≤ (units : ℚ) := by
      rw [← cast_pow_two]
      exact_mod_cast Nat.succ_le_of_lt (Nat.lt_of_not_le more)
    linarith

/-- A rounded magnitude stands for its units. -/
theorem Rounded.value_eq (rounded : format.Rounded exact scale units) :
    format.value (scale * Nat.pow 2 format.fractionBits + units) = units * format.unit scale :=
  format.value_eq rounded.units_bounds.1 rounded.units_bounds.2

/-- A rounded magnitude that is odd has odd units. -/
theorem Rounded.odd_units (wide : 0 < format.fractionBits)
    (odd : ¬ (scale * Nat.pow 2 format.fractionBits + units) % 2 = 0) : units % 2 = 1 := by
  have multiple : 2 ∣ scale * Nat.pow 2 format.fractionBits :=
    (dvd_pow_self 2 wide.ne').mul_left scale
  omega

/-- The middle below is passed. At the lowest significand of a scale this is so because the rational
itself reaches the scale. -/
theorem Rounded.above (rounded : format.Rounded exact scale units) (wide : 0 < format.fractionBits)
    (below : Nat) (next : below + 1 = scale * Nat.pow 2 format.fractionBits + units) :
    format.middle below ≤ exact ∧ (format.middle below = exact → (below + 1) % 2 = 0) := by
  have value := rounded.value_eq
  obtain ⟨normal, fits⟩ := rounded.units_bounds
  by_cases inner : scale = 0 ∨ Nat.pow 2 format.fractionBits < units
  · obtain ⟨fewer, rfl⟩ : ∃ fewer, units = fewer + 1 := by
      refine ⟨units - 1, ?_⟩
      rcases inner with rfl | inner
      · omega
      · omega
    obtain rfl : below = scale * Nat.pow 2 format.fractionBits + fewer := by omega
    have lower : format.value (scale * Nat.pow 2 format.fractionBits + fewer) =
        fewer * format.unit scale :=
      format.value_eq (inner.imp_right Nat.le_of_lt_succ) (by omega)
    have shown : format.middle (scale * Nat.pow 2 format.fractionBits + fewer) =
        ((fewer + 1 : Nat) - 1 / 2) * format.unit scale := by
      rw [middle, lower, Nat.add_assoc, value]
      push_cast
      ring
    rw [shown, Nat.add_assoc]
    refine ⟨rounded.low, fun equal => ?_⟩
    by_contra odd
    exact (rounded.odd (odd_units wide odd)).1.ne equal
  · have first : units = Nat.pow 2 format.fractionBits := by omega
    have reached : 2 ^ format.fractionBits * format.unit scale ≤ exact :=
      rounded.normal.resolve_left fun zero => inner (.inl zero)
    have under : format.middle below < exact := by
      have less := format.value_strictMono (Nat.lt_succ_self below)
      rw [← cast_pow_two, ← first, ← value, ← next] at reached
      rw [middle]
      linarith
    exact ⟨under.le, fun equal => absurd equal under.ne⟩

/-- The middle above is not passed, also where the next scale begins. -/
theorem Rounded.below (rounded : format.Rounded exact scale units) (wide : 0 < format.fractionBits) :
    let magnitude := scale * Nat.pow 2 format.fractionBits + units
    exact ≤ format.middle magnitude ∧ (exact = format.middle magnitude → magnitude % 2 = 0) := by
  dsimp only
  have positive : 0 < Nat.pow 2 format.fractionBits := Nat.two_pow_pos _
  have reaches : scale ≤ format.scale (scale * Nat.pow 2 format.fractionBits + units) := by
    rcases rounded.units_bounds.1 with rfl | normal
    · exact Nat.zero_le _
    · have quotient : scale + 1 ≤
          (scale * Nat.pow 2 format.fractionBits + units) / Nat.pow 2 format.fractionBits := by
        rw [Nat.le_div_iff_mul_le positive, Nat.add_mul]
        omega
      exact Nat.le_sub_of_add_le quotient
  have shown : (units + 1 / 2) * format.unit scale ≤
      format.middle (scale * Nat.pow 2 format.fractionBits + units) := by
    rw [middle, value_succ, rounded.value_eq]
    linarith [format.unit_mono reaches]
  refine ⟨rounded.high.trans shown, fun equal => ?_⟩
  by_contra odd
  exact ((rounded.odd (odd_units wide odd)).2.trans_le shown).ne equal

/-- A fraction is rounded to the number nearest to it. -/
theorem round_nearest (format : Format) (wide : 0 < format.fractionBits)
    (positive : 0 < denominator) (numerator : Nat) :
    format.Nearest (numerator / denominator) (format.round numerator denominator) := by
  obtain ⟨scale, units, rounded, shown⟩ := format.round_spec positive numerator
  have above := rounded.above wide
  have below := rounded.below wide
  rw [shown]
  dsimp only at below
  generalize scale * Nat.pow 2 format.fractionBits + units = magnitude at above below
  apply Between.nearest _ (Nat.min_le_right ..)
  rcases Nat.le_total magnitude format.infinity with finite | infinite
  · rw [Nat.min_eq_left finite]
    exact ⟨fun lower next => next ▸ above lower next, fun _ => below⟩
  · -- beyond the finite numbers infinity is nearest, and it is even
    rw [Nat.min_eq_right infinite]
    have even : format.infinity % 2 = 0 :=
      Nat.mod_eq_zero_of_dvd ((dvd_pow_self 2 wide.ne').mul_left _)
    refine ⟨fun lower next => ⟨?_, fun _ => even⟩, fun finite => absurd finite (Nat.lt_irrefl _)⟩
    obtain ⟨last, rfl⟩ : ∃ last, magnitude = last + 1 := ⟨magnitude - 1, by omega⟩
    have order := format.middle_strictMono.monotone (show lower ≤ last by omega)
    exact order.trans (above last rfl).1

/-- A fraction that is the value of a number is rounded to that number. -/
theorem round_of_value (wide : 0 < format.fractionBits) (positive : 0 < denominator)
    (bounded : magnitude ≤ format.infinity)
    (shown : (numerator / denominator : ℚ) = format.value magnitude) :
    format.round numerator denominator = magnitude := by
  have nearest := format.round_nearest wide positive numerator
  rw [shown] at nearest
  apply nearest.unique
  have least : ∀ other, |format.value magnitude - format.value magnitude| ≤
      |format.value magnitude - format.value other| := fun other => by simp
  refine ⟨bounded, fun other _ => least other, fun other _ different equal => ?_⟩
  rw [sub_self, abs_zero] at equal
  have same := sub_eq_zero.mp (abs_eq_zero.mp equal.symm)
  exact absurd (format.value_strictMono.injective same).symm different

end Format
end ShadeTree.Number
