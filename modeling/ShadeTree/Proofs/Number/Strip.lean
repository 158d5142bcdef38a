import Mathlib.Tactic.Linarith
import Mathlib.Tactic.LinearCombination
import Mathlib.Tactic.Ring

/-!
Lattice points in a strip of the plane.

The points are pairs of digits and units. Two vectors that span an area of one generate all of them;
if the vectors are short, then only few combinations can lie in the strip, and these are listed.
-/

namespace ShadeTree.Number

/-- Digits make steps, and a significand stands for an odd number of wholes. -/
structure Strip where
  step : Int
  whole : Int
  /-- How far steps and wholes may lie apart. -/
  width : Int
  least : Int
  most : Int

namespace Strip

variable {strip : Strip} {digits units : Int}

def offset (strip : Strip) (digits units : Int) : Int :=
  digits * strip.step - (2 * units + 1) * strip.whole

structure Contains (strip : Strip) (digits units : Int) : Prop where
  least : strip.least ≤ digits
  most : digits ≤ strip.most
  low : -strip.width ≤ strip.offset digits units
  high : strip.offset digits units ≤ strip.width

instance (strip : Strip) (digits units : Int) : Decidable (strip.Contains digits units) :=
  decidable_of_iff (strip.least ≤ digits ∧ digits ≤ strip.most ∧
      -strip.width ≤ strip.offset digits units ∧ strip.offset digits units ≤ strip.width)
    ⟨fun ⟨least, most, low, high⟩ => ⟨least, most, low, high⟩,
      fun ⟨least, most, low, high⟩ => ⟨least, most, low, high⟩⟩

end Strip

/-- Two vectors of the lattice, the digits and units of each. -/
structure Basis where
  digits : Int
  units : Int
  otherDigits : Int
  otherUnits : Int

namespace Basis

variable {basis : Basis} {strip : Strip} {digits units : Int}

/-- How far the first vector rises above the direction of the strip. -/
def rise (basis : Basis) (strip : Strip) : Int :=
  basis.digits * strip.step - 2 * basis.units * strip.whole

/-- How far the other vector falls below it. -/
def fall (basis : Basis) (strip : Strip) : Int :=
  2 * basis.otherUnits * strip.whole - basis.otherDigits * strip.step

/-- The vectors generate the lattice, one on each side of the strip. -/
structure Generates (basis : Basis) (strip : Strip) : Prop where
  unimodular : basis.digits * basis.otherUnits - basis.otherDigits * basis.units = 1
  digits : 0 ≤ basis.digits
  otherDigits : 0 ≤ basis.otherDigits
  rise : 0 ≤ basis.rise strip
  fall : 0 ≤ basis.fall strip
  whole : 0 < strip.whole

instance (basis : Basis) (strip : Strip) : Decidable (basis.Generates strip) :=
  decidable_of_iff (basis.digits * basis.otherUnits - basis.otherDigits * basis.units = 1 ∧
      0 ≤ basis.digits ∧ 0 ≤ basis.otherDigits ∧ 0 ≤ basis.rise strip ∧ 0 ≤ basis.fall strip ∧
        0 < strip.whole)
    ⟨fun ⟨unimodular, digits, otherDigits, rise, fall, whole⟩ =>
        ⟨unimodular, digits, otherDigits, rise, fall, whole⟩,
      fun ⟨unimodular, digits, otherDigits, rise, fall, whole⟩ =>
        ⟨unimodular, digits, otherDigits, rise, fall, whole⟩⟩

/-- The vectors are made shorter by taking one from the other, until the digits reach a target. -/
def reduce (strip : Strip) (target : Int) : (rounds : Nat) → Basis → Basis
  | 0, basis => basis
  | rounds + 1, basis =>
    if basis.rise strip < basis.fall strip then
      let count := min (basis.fall strip / basis.rise strip)
        ((target - basis.otherDigits) / basis.digits)
      if 0 < count then
        reduce strip target rounds
          { basis with
            otherDigits := basis.otherDigits + count * basis.digits
            otherUnits := basis.otherUnits + count * basis.units }
      else basis
    else
      let count := min (basis.rise strip / basis.fall strip)
        ((target - basis.digits) / basis.otherDigits)
      if 0 < count then
        reduce strip target rounds
          { basis with
            digits := basis.digits + count * basis.otherDigits
            units := basis.units + count * basis.otherUnits }
      else basis

end Basis

/-- The integers from one to another. -/
def between (low high : Int) : List Int :=
  (List.range (high + 1 - low).toNat).map fun index : Nat => low + (index : Int)

theorem mem_between {low high integer : Int} (above : low ≤ integer) (below : integer ≤ high) :
    integer ∈ between low high := by
  refine List.mem_map.mpr ⟨(integer - low).toNat, List.mem_range.mpr ?_, ?_⟩
  · omega
  · omega

namespace Basis

variable {basis : Basis} {strip : Strip} {digits units : Int}

/-- How often the first vector can occur in a point of the strip. -/
def range (basis : Basis) (strip : Strip) : List Int :=
  between
    ((strip.least * basis.fall strip + (strip.whole - strip.width) * basis.otherDigits) /
      (2 * strip.whole))
    ((strip.most * basis.fall strip + (strip.whole + strip.width) * basis.otherDigits) /
      (2 * strip.whole))

/-- How often the other vector can occur in a point of the strip. -/
def otherRange (basis : Basis) (strip : Strip) : List Int :=
  between
    ((strip.least * basis.rise strip - (strip.whole + strip.width) * basis.digits) /
      (2 * strip.whole))
    ((strip.most * basis.rise strip - (strip.whole - strip.width) * basis.digits) /
      (2 * strip.whole))

def points (basis : Basis) (strip : Strip) : List (Int × Int) :=
  (basis.range strip).flatMap fun count => (basis.otherRange strip).map fun other =>
    (count * basis.digits + other * basis.otherDigits,
      count * basis.units + other * basis.otherUnits)

/-- An integer lies between the quotients when its multiple lies between the bounds. -/
theorem mem_between_of_mul {low high integer unit : Int} (positive : 0 < unit)
    (above : low ≤ unit * integer) (below : unit * integer ≤ high) :
    integer ∈ between (low / unit) (high / unit) := by
  apply mem_between
  · rw [← Int.mul_ediv_cancel_left integer positive.ne']
    exact Int.ediv_le_ediv positive above
  · rw [← Int.mul_ediv_cancel_left integer positive.ne']
    exact Int.ediv_le_ediv positive below

/-- All points of the strip are among those listed. The coordinates of a point are integers, since the
vectors span an area of one. -/
theorem mem_points (generates : basis.Generates strip) (inside : strip.Contains digits units) :
    (digits, units) ∈ basis.points strip := by
  have unimodular := generates.unimodular
  have low := inside.low
  have high := inside.high
  have double : 0 < 2 * strip.whole := by have := generates.whole; omega
  unfold Strip.offset at low high
  refine List.mem_flatMap.mpr
    ⟨digits * basis.otherUnits - units * basis.otherDigits, ?_, List.mem_map.mpr
      ⟨units * basis.digits - digits * basis.units, ?_, ?_⟩⟩
  · have shown : 2 * strip.whole * (digits * basis.otherUnits - units * basis.otherDigits) =
        digits * basis.fall strip +
          (digits * strip.step - 2 * units * strip.whole) * basis.otherDigits := by
      unfold fall
      ring
    apply mem_between_of_mul double
    · rw [shown]
      exact add_le_add (mul_le_mul_of_nonneg_right inside.least generates.fall)
        (mul_le_mul_of_nonneg_right (by linarith) generates.otherDigits)
    · rw [shown]
      exact add_le_add (mul_le_mul_of_nonneg_right inside.most generates.fall)
        (mul_le_mul_of_nonneg_right (by linarith) generates.otherDigits)
  · have shown : 2 * strip.whole * (units * basis.digits - digits * basis.units) =
        digits * basis.rise strip -
          (digits * strip.step - 2 * units * strip.whole) * basis.digits := by
      unfold rise
      ring
    apply mem_between_of_mul double
    · rw [shown]
      exact sub_le_sub (mul_le_mul_of_nonneg_right inside.least generates.rise)
        (mul_le_mul_of_nonneg_right (by linarith) generates.digits)
    · rw [shown]
      exact sub_le_sub (mul_le_mul_of_nonneg_right inside.most generates.rise)
        (mul_le_mul_of_nonneg_right (by linarith) generates.digits)
  · refine Prod.ext ?_ ?_
    · linear_combination digits * unimodular
    · linear_combination units * unimodular

end Basis

end ShadeTree.Number
