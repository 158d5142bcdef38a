import ShadeTree.Number.Quantity
import ShadeTree.Proofs.Number.Grid
import ShadeTree.Proofs.Number.Strip

/-!
Decimals that come close to a middle without meeting it.

The decimals on the grid of a power of ten and the middles of a scale, paired, are the points of a
lattice, and the near misses are its points in a narrow strip. They are listed for every scale, and
the number on the side of each is found to be read again from its numeral.
-/

namespace ShadeTree.Number

namespace Single

/-- The numeral of a positive number as it is read again. -/
def reread? (magnitude : Nat) : Option Nat :=
  ((⟨false, magnitude⟩ : Single).numeral .literal).real?.map fun value =>
    (value.convert .single).magnitude

/-- The same numeral, if the nearest number of double precision is taken and then the nearest one of
single precision. -/
def rounded (magnitude : Nat) : Nat :=
  ((((⟨false, magnitude⟩ : Single).numeral .literal).nearest .double).convert .single).magnitude

/-- The one number that is lost when its numeral is rounded twice. -/
def lostTwice : Nat := 0x15ae43fd

def settled (magnitude : Nat) : Bool :=
  reread? magnitude == some magnitude && (rounded magnitude == magnitude) != (magnitude == lostTwice)

/-- No shortest decimal of a scale lies on a finer grid. -/
def gridExponent (scale : Nat) : Int :=
  (scale * 30103 - 4497841) / 100000

/-- A step of the grid and a half unit, as whole multiples of one length. -/
def gridStep (scale : Nat) : Nat :=
  Nat.pow 2 (150 + gridExponent scale - scale).toNat * Nat.pow 5 (gridExponent scale).toNat

def gridWhole (scale : Nat) : Nat :=
  Nat.pow 2 (scale - 150 - gridExponent scale).toNat * Nat.pow 5 (-gridExponent scale).toNat

/-- The decimals on the grid of a scale, and the middles as odd numbers of half units. -/
def strip (scale : Nat) : Strip where
  step := gridStep scale
  whole := gridWhole scale
  width := (gridWhole scale / Nat.pow 2 26 : Nat)
  least := if scale = 0 then 0 else (Nat.pow 2 24 * gridWhole scale / gridStep scale : Nat)
  most := (Nat.pow 2 25 * gridWhole scale / gridStep scale : Nat)

/-- The lengths of the two vectors are to be such that few points are listed. -/
def basis (strip : Strip) : Basis :=
  let area := strip.most * (2 * strip.whole) / (2 * strip.width + 1)
  Basis.reduce strip (Nat.pow 2 (area.toNat.log2 / 2)) 100
    ⟨1, strip.step / (2 * strip.whole), 0, 1⟩

/-- Every near miss of a scale is on the side of a number that is settled. -/
def scaleSettled (scale : Nat) : Bool :=
  let strip := strip scale
  let basis := basis strip
  strip.width == 0 ||
    (decide (basis.Generates strip) && (basis.points strip).all fun (digits, units) =>
      !decide (strip.Contains digits units) || strip.offset digits units == 0 ||
        settled (scale * Nat.pow 2 23 + units.toNat +
          if 0 < strip.offset digits units then 1 else 0))

/-- The grid of a scale is finer than three quarters of its unit. -/
theorem gridExponent_lt (scale : Nat) (small : scale < 254) :
    4 * 2 ^ 149 * 10 ^ (gridExponent scale).toNat < 3 * 2 ^ scale * 10 ^ (-gridExponent scale).toNat := by
  revert scale
  decide +kernel

/-- The near misses of every scale are settled, one scale after another. -/
theorem scales_settled (scale : Nat) (small : scale < 254) : scaleSettled scale := by
  revert scale
  decide +kernel

/-! ### Near misses in the plane -/

theorem gridStep_pos (scale : Nat) : 0 < gridStep scale :=
  Nat.mul_pos (Nat.pow_pos (by decide)) (Nat.pow_pos (by decide))

theorem gridWhole_pos (scale : Nat) : 0 < gridWhole scale :=
  Nat.mul_pos (Nat.pow_pos (by decide)) (Nat.pow_pos (by decide))

theorem half_unit (scale : Nat) : Format.single.unit scale / 2 = 2 ^ scale / 2 ^ 150 := by
  rw [Format.unit, show Format.single.bias = 149 from rfl, div_div, ← pow_succ]

/-- A decimal on the grid of a scale, counted in half units. -/
theorem decimal_eq (scale digits : Nat) :
    (digits * 10 ^ gridExponent scale : ℚ) * gridWhole scale =
      digits * gridStep scale * (Format.single.unit scale / 2) := by
  have twos := cast_zpow 2 (150 + gridExponent scale - scale)
  have fives := cast_zpow 5 (gridExponent scale)
  have opposite : -(150 + gridExponent scale - scale) = scale - 150 - gridExponent scale := by ring
  rw [opposite] at twos
  unfold gridStep gridWhole
  rw [half_unit]
  generalize gridExponent scale = exponent at *
  have pos (base count : Nat) (positive : 0 < base) : (0 : ℚ) < (Nat.pow base count : Nat) := by
    exact_mod_cast Nat.pow_pos positive
  have twosPositive := pos 2 (scale - 150 - exponent).toNat (by decide)
  have fivesPositive := pos 5 (-exponent).toNat (by decide)
  rw [div_eq_iff twosPositive.ne'] at twos
  rw [div_eq_iff fivesPositive.ne'] at fives
  have power : (2 : ℚ) ^ (150 + exponent - scale : Int) * (2 ^ scale / 2 ^ 150) = 2 ^ exponent := by
    rw [zpow_sub₀ (by norm_num), zpow_add₀ (by norm_num), zpow_natCast]
    field_simp
  have ten : (10 : ℚ) ^ exponent = 2 ^ exponent * 5 ^ exponent := by
    rw [← mul_zpow]
    norm_num
  push_cast at twos fives ⊢
  rw [twos, fives, ten, ← power]
  ring

/-- A middle is an odd count of half units. -/
theorem middle_eq (magnitude : Nat) :
    Format.single.middle magnitude = (2 * Format.single.significand magnitude + 1) *
      (Format.single.unit (Format.single.scale magnitude) / 2) := by
  rw [Format.middle_eq]
  ring

/-- How far a decimal lies from a middle. -/
theorem offset_eq (magnitude digits : Nat) :
    ((strip (Format.single.scale magnitude)).offset digits (Format.single.significand magnitude) : ℚ) *
        (Format.single.unit (Format.single.scale magnitude) / 2) =
      ((digits * 10 ^ gridExponent (Format.single.scale magnitude) : ℚ) -
        Format.single.middle magnitude) * gridWhole (Format.single.scale magnitude) := by
  rw [sub_mul, decimal_eq, middle_eq, Strip.offset, strip]
  push_cast
  ring

/-- Steps and wholes that differ by a fraction of the steps differ by a fraction of one whole, since
there are fewer than `2 ^ 25` wholes. -/
theorem offset_small {steps units whole : Int} (positive : 0 < whole) (few : units < 2 ^ 24)
    (near : |steps - (2 * units + 1) * whole| * 2 ^ 51 ≤ steps) :
    steps ≤ 2 ^ 25 * whole ∧ |steps - (2 * units + 1) * whole| * 2 ^ 26 ≤ whole := by
  have above := le_abs_self (steps - (2 * units + 1) * whole)
  have wholes : (2 * units + 1) * whole ≤ (2 ^ 25 - 1) * whole :=
    mul_le_mul_of_nonneg_right (by omega) positive.le
  have most : steps ≤ 2 ^ 25 * whole := by omega
  exact ⟨most, by omega⟩

/-- A decimal close to a middle is a fraction of its steps off. -/
theorem offset_near {magnitude digits : Nat}
    (near : |(digits * 10 ^ gridExponent (Format.single.scale magnitude) : ℚ) -
        Format.single.middle magnitude| ≤
      digits * 10 ^ gridExponent (Format.single.scale magnitude) / 2 ^ 51) :
    |(strip (Format.single.scale magnitude)).offset digits (Format.single.significand magnitude)| *
      2 ^ 51 ≤ (digits * gridStep (Format.single.scale magnitude) : Int) := by
  have distance := offset_eq magnitude digits
  have decimal := decimal_eq (Format.single.scale magnitude) digits
  have halfPositive : 0 < Format.single.unit (Format.single.scale magnitude) / 2 :=
    half_pos (Format.single.unit_pos _)
  have wholePositive : (0 : ℚ) < gridWhole (Format.single.scale magnitude) := by
    exact_mod_cast gridWhole_pos _
  generalize Format.single.middle magnitude = middle at *
  generalize Format.single.scale magnitude = scale at *
  generalize Format.single.significand magnitude = units at *
  generalize Format.single.unit scale / 2 = half at *
  have scaled : |((strip scale).offset digits units : ℚ)| * half ≤
      digits * gridStep scale * half / 2 ^ 51 := by
    rw [← abs_of_pos halfPositive, ← abs_mul, distance, abs_mul, abs_of_pos halfPositive,
      abs_of_pos wholePositive, ← decimal, mul_div_right_comm]
    exact mul_le_mul_of_nonneg_right near wholePositive.le
  rw [mul_div_right_comm] at scaled
  have cast := le_of_mul_le_mul_right scaled halfPositive
  rw [le_div_iff₀ (by positivity)] at cast
  exact_mod_cast cast

/-- The offset shows on which side of the middle the decimal lies. -/
theorem offset_neg {magnitude digits : Nat}
    (below : (digits * 10 ^ gridExponent (Format.single.scale magnitude) : ℚ) <
      Format.single.middle magnitude) :
    (strip (Format.single.scale magnitude)).offset digits (Format.single.significand magnitude) < 0 := by
  have wholePositive : (0 : ℚ) < gridWhole (Format.single.scale magnitude) := by
    exact_mod_cast gridWhole_pos _
  have product := mul_neg_of_neg_of_pos (sub_neg.mpr below) wholePositive
  rw [← offset_eq] at product
  exact_mod_cast neg_of_mul_neg_left product (half_pos (Format.single.unit_pos _)).le

/-- A decimal above the middle has a positive offset. -/
theorem offset_pos {magnitude digits : Nat}
    (above : Format.single.middle magnitude <
      (digits * 10 ^ gridExponent (Format.single.scale magnitude) : ℚ)) :
    0 < (strip (Format.single.scale magnitude)).offset digits (Format.single.significand magnitude) := by
  have wholePositive : (0 : ℚ) < gridWhole (Format.single.scale magnitude) := by
    exact_mod_cast gridWhole_pos _
  have product := mul_pos (sub_pos.mpr above) wholePositive
  rw [← offset_eq] at product
  exact_mod_cast (mul_pos_iff_of_pos_right (half_pos (Format.single.unit_pos _))).mp product

/-- A point that is a fraction of its steps off lies in the strip. -/
theorem strip_contains {scale units digits : Nat} (fits : (units : Int) < 2 ^ 24)
    (normal : scale ≠ 0 → (2 ^ 23 : Int) ≤ units)
    (close : |(strip scale).offset digits units| * 2 ^ 51 ≤ (digits * gridStep scale : Int)) :
    (strip scale).Contains digits units := by
  have offset : (strip scale).offset digits units =
      digits * gridStep scale - (2 * units + 1) * gridWhole scale := rfl
  rw [offset] at close
  obtain ⟨most, small⟩ := offset_small (by exact_mod_cast gridWhole_pos scale) fits close
  have width : |(strip scale).offset digits units| ≤ (gridWhole scale / Nat.pow 2 26 : Nat) := by
    rw [Int.natCast_div, offset]
    exact (Int.le_ediv_iff_mul_le (by decide)).mpr small
  refine ⟨?_, ?_, (abs_le.mp width).1, (abs_le.mp width).2⟩
  · unfold strip
    dsimp only
    split
    · exact Int.natCast_nonneg _
    · rename_i scaled
      have below := neg_abs_le (digits * gridStep scale - (2 * units + 1) * gridWhole scale : Int)
      have wholes : ((2 ^ 24 + 1) * gridWhole scale : Int) ≤ (2 * units + 1) * gridWhole scale := by
        apply mul_le_mul_of_nonneg_right _ (Int.natCast_nonneg _)
        have := normal scaled
        omega
      have reached : (2 ^ 24 * gridWhole scale : Int) ≤ gridStep scale * digits := by
        rw [mul_comm (gridStep scale : Int)]
        omega
      rw [Int.ofNat_le]
      apply Nat.div_le_of_le_mul
      exact_mod_cast reached
  · unfold strip
    dsimp only
    rw [Int.ofNat_le, Nat.le_div_iff_mul_le (gridStep_pos scale)]
    exact_mod_cast most

/-- A decimal close to a middle lies in the strip of its scale. -/
theorem contains_of_near {magnitude digits : Nat}
    (near : |(digits * 10 ^ gridExponent (Format.single.scale magnitude) : ℚ) -
        Format.single.middle magnitude| ≤
      digits * 10 ^ gridExponent (Format.single.scale magnitude) / 2 ^ 51) :
    (strip (Format.single.scale magnitude)).Contains digits (Format.single.significand magnitude) := by
  apply strip_contains _ _ (offset_near near)
  · exact_mod_cast Format.single.significand_lt magnitude
  · intro scaled
    exact_mod_cast Format.single.implicit_le magnitude (Nat.pos_of_ne_zero scaled)

/-- Every point of the strip that does not meet a middle has been looked at. -/
theorem point_settled {scale units : Nat} {digits : Int} (small : scale < 254)
    (inside : (strip scale).Contains digits units) (differs : (strip scale).offset digits units ≠ 0) :
    settled (scale * Nat.pow 2 23 + units + if 0 < (strip scale).offset digits units then 1 else 0) := by
  have wide : (strip scale).width ≠ 0 := by
    intro zero
    have low := inside.low
    have high := inside.high
    omega
  have checked := scales_settled scale small
  simp only [scaleSettled, Bool.or_eq_true, beq_iff_eq, wide, false_or, Bool.and_eq_true,
    decide_eq_true_eq, List.all_eq_true] at checked
  have point := checked.2 _ (Basis.mem_points checked.1 inside)
  simpa [inside, differs] using point

/-- Every decimal that is coarse enough lies on the grid of its scale. -/
theorem gridExponent_le {scale : Nat} (small : scale < 254) {exponent : Int}
    (coarse : 3 / 4 * Format.single.unit scale ≤ 10 ^ (exponent + 1)) :
    gridExponent scale ≤ exponent := by
  have less := gridExponent_lt scale small
  have power := cast_zpow 10 (gridExponent scale)
  have splitPositive : (0 : ℚ) < (Nat.pow 10 (-gridExponent scale).toNat : Nat) := by
    exact_mod_cast pow_ten_pos _
  have fine : (10 : ℚ) ^ gridExponent scale < 3 / 4 * Format.single.unit scale := by
    have cast : ((4 * Nat.pow 2 149 * Nat.pow 10 (gridExponent scale).toNat : Nat) : ℚ) <
        ((3 * Nat.pow 2 scale * Nat.pow 10 (-gridExponent scale).toNat : Nat) : ℚ) := by
      exact_mod_cast less
    rw [Nat.cast_mul, Nat.cast_mul, Nat.cast_mul, Nat.cast_mul, cast_pow_two, cast_pow_two] at cast
    rw [← Nat.cast_ofNat, ← power, div_lt_iff₀ splitPositive, Format.unit,
      show Format.single.bias = 149 from rfl, mul_div_assoc', div_mul_eq_mul_div,
      lt_div_iff₀ (by positivity)]
    push_cast at cast ⊢
    linarith
  have order := (zpow_lt_zpow_iff_right₀ (by norm_num)).mp (fine.trans_le coarse)
  omega

/-- Whatever near miss there is, the number on its side of the middle is settled. -/
theorem settled_of_near {magnitude digits : Nat} (finite : magnitude < Format.single.infinity)
    {exponent : Int}
    (coarse : 3 / 4 * Format.single.unit (Format.single.scale magnitude) ≤ 10 ^ (exponent + 1))
    (near : |(digits * 10 ^ exponent : ℚ) - Format.single.middle magnitude| ≤
      digits * 10 ^ exponent / 2 ^ 51) :
    ((digits * 10 ^ exponent : ℚ) < Format.single.middle magnitude → settled magnitude) ∧
      (Format.single.middle magnitude < (digits * 10 ^ exponent : ℚ) → settled (magnitude + 1)) := by
  have small : Format.single.scale magnitude < 254 := by
    have bound : magnitude < 255 * 2 ^ 23 := finite
    change magnitude / 2 ^ 23 - 1 < 254
    omega
  have finer := gridExponent_le small coarse
  obtain ⟨count, rfl⟩ : ∃ count : Nat,
      exponent = gridExponent (Format.single.scale magnitude) + count :=
    ⟨(exponent - gridExponent (Format.single.scale magnitude)).toNat, by omega⟩
  have shown : (digits * 10 ^ (gridExponent (Format.single.scale magnitude) + count) : ℚ) =
      (digits * 10 ^ count : Nat) * 10 ^ gridExponent (Format.single.scale magnitude) := by
    rw [zpow_add₀ (by norm_num), zpow_natCast]
    push_cast
    ring
  rw [shown] at near ⊢
  generalize digits * 10 ^ count = points at near ⊢
  have point := point_settled small (contains_of_near near)
  have whole : Format.single.scale magnitude * Nat.pow 2 23 + Format.single.significand magnitude =
      magnitude := Format.single.scale_add_significand magnitude
  rw [whole] at point
  constructor
  · intro below
    have negative := offset_neg below
    simpa [negative.not_gt] using point negative.ne
  · intro above
    have positive := offset_pos above
    simpa [positive] using point positive.ne'

end Single

end ShadeTree.Number
