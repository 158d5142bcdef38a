import ShadeTree.Json.Scan
import ShadeTree.Proofs.Number.Numeral
import Mathlib.Tactic.IntervalCases

/-!
Numerals in JSON documents.

A numeral is scanned back from its text, if no zero stands in front of its other digits and what
follows it does not go on with it.
-/

namespace ShadeTree

open Number

namespace Json

/-- What stands behind a value: nothing, or a sign that separates or closes. -/
def Behind (rest : List Char) : Prop :=
  ∀ character ∈ rest.head?, character ∈ [',', ']', '\x7d']

theorem behind_nil : Behind [] := by simp [Behind]

theorem behind_comma (rest : List Char) : Behind (',' :: rest) := by simp [Behind]

theorem behind_bracket (rest : List Char) : Behind (']' :: rest) := by simp [Behind]

theorem behind_brace (rest : List Char) : Behind ('\x7d' :: rest) := by simp [Behind]

/-- The text does not go on with a digit. -/
def Digitless (text : List Char) : Prop :=
  ∀ character ∈ text.head?, character.isDigit = false

/-- What stands behind a value is no digit. -/
theorem Behind.digitless {rest : List Char} (behind : Behind rest) : Digitless rest := by
  intro character head
  have member := behind character head
  simp only [List.mem_cons, List.not_mem_nil, or_false] at member
  rcases member with rfl | rfl | rfl <;> rfl

theorem digitless_cons {character : Char} (other : character.isDigit = false) (rest : List Char) :
    Digitless (character :: rest) := by
  simpa [Digitless] using other

/-- Digits are scanned up to the first character that is none. -/
theorem scanDigits_append {digits rest : List Char} (all : ∀ digit ∈ digits, digit.isDigit)
    (ends : Digitless rest) : scanDigits (digits ++ rest) = (digits, rest) := by
  unfold scanDigits
  rw [List.takeWhile_append_of_pos all, List.dropWhile_append_of_pos all]
  cases rest with
  | nil => simp
  | cons character rest =>
      have other : character.isDigit = false := ends character rfl
      simp [other]

/-- Digits are scanned without an error if there is one at least. -/
theorem scanDigits1_append {digits rest : List Char} (nonempty : digits ≠ [])
    (all : ∀ digit ∈ digits, digit.isDigit) (ends : Digitless rest) :
    scanDigits1 (digits ++ rest) = .ok (digits, rest) := by
  have scanned := scanDigits_append all ends
  cases digits with
  | nil => exact absurd rfl nonempty
  | cons first others =>
      have digit : first.isDigit := all first (List.mem_cons_self ..)
      rw [List.cons_append] at scanned ⊢
      simp only [scanDigits1, digit, if_true, scanned]

/-- The digits in front of the point are scanned if zero leads none but itself. -/
theorem scanWhole_append {whole rest : List Char} (nonempty : whole ≠ [])
    (all : ∀ digit ∈ whole, digit.isDigit) (leading : whole = ['0'] ∨ whole.head? ≠ some '0')
    (ends : Digitless rest) : scanWhole (whole ++ rest) = .ok (whole, rest) := by
  rcases leading with rfl | other
  · have stop : rest.head?.any Char.isDigit = false := by
      cases rest with
      | nil => rfl
      | cons character rest => exact ends character rfl
    simp [scanWhole, stop]
  · have scanned := scanDigits1_append nonempty all ends
    unfold scanWhole
    split
    · rename_i zero
      cases whole with
      | nil => exact absurd rfl nonempty
      | cons first others =>
          rw [List.cons_append] at zero
          exact absurd (congrArg some (List.cons.inj zero).1) other
    · exact scanned

/-- The fraction of a numeral with its point. -/
def fractionText (fraction : List Char) : List Char :=
  if fraction.isEmpty then [] else '.' :: fraction

/-- The point is scanned with the digits behind it, and no point with none. -/
theorem scanFraction_append {fraction rest : List Char} (all : ∀ digit ∈ fraction, digit.isDigit)
    (ends : Digitless rest) (pointless : rest.head? ≠ some '.') :
    scanFraction (fractionText fraction ++ rest) = .ok (fraction, rest) := by
  cases fraction with
  | nil =>
      change scanFraction rest = _
      unfold scanFraction
      split
      · exact absurd rfl pointless
      · rfl
  | cons first others => exact scanDigits1_append (List.cons_ne_nil _ _) all ends

/-- The exponent is scanned with its sign, or not at all if there is none. -/
theorem scanExponent_append {exponent : Option (Sign × List Char)} {rest : List Char}
    (formed : ∀ sign digits, exponent = some (sign, digits) →
      digits ≠ [] ∧ ∀ digit ∈ digits, digit.isDigit) (behind : Behind rest) :
    scanExponent (Numeral.exponentText exponent ++ rest) = .ok (exponent, rest) := by
  match exponent with
  | none =>
      cases rest with
      | nil => rfl
      | cons character rest =>
          have member := behind character rfl
          simp only [List.mem_cons, List.not_mem_nil, or_false] at member
          rcases member with rfl | rfl | rfl <;> rfl
  | some (sign, digits) =>
      obtain ⟨nonempty, all⟩ := formed sign digits rfl
      have scanned := scanDigits1_append nonempty all behind.digitless
      cases sign with
      | plus | minus =>
          simp only [Numeral.exponentText, Sign.toList, List.cons_append, List.nil_append,
            scanExponent, scanned]
          rfl
      | absent =>
          cases digits with
          | nil => exact absurd rfl nonempty
          | cons first others =>
              have digit := all first (List.mem_cons_self ..)
              have plus : first ≠ '+' := by
                rintro rfl
                cases digit
              have minus : first ≠ '-' := by
                rintro rfl
                cases digit
              rw [List.cons_append] at scanned
              simp only [Numeral.exponentText, Sign.toList, List.cons_append, List.nil_append,
                scanExponent, scanned]
              split
              · rename_i equal
                exact absurd (List.cons.inj equal).1 plus
              · rename_i equal
                exact absurd (List.cons.inj equal).1 minus
              · rfl

end Json

namespace Number

/-- A numeral as documents have it: digits stand where digits belong, and a zero in front stands
alone. -/
structure Numeral.Plain (numeral : Numeral) : Prop where
  formed : numeral.WellFormed
  leading : numeral.whole = ['0'] ∨ numeral.whole.head? ≠ some '0'

/-- No zeros stand in front of the digits of a number, by induction on the number of digits. -/
theorem head_decimalDigits {number : Nat} (nonzero : number ≠ 0) :
    (decimalDigits number).head? ≠ some '0' := by
  unfold decimalDigits
  induction number using Nat.strongRecOn with
  | ind number ih =>
      rw [Nat.toDigits_eq_if (by decide)]
      split
      · rename_i small
        interval_cases number <;> simp_all [Nat.digitChar]
      · rename_i large
        have fewer : (Nat.toDigits 10 (number / 10)).head? ≠ some '0' :=
          ih (number / 10) (by omega) (by omega)
        cases digits : Nat.toDigits 10 (number / 10) with
        | nil => exact absurd digits Nat.toDigits_ne_nil
        | cons first others =>
            rw [digits] at fewer
            simpa using fewer

/-- The shortest decimal of a finite number other than zero has digits other than zero. -/
theorem digits_shortest_ne_zero {format : Format} {magnitude : Nat} (tie : Tie)
    (nonzero : 0 < magnitude) (finite : magnitude < format.infinity) :
    (shortest format tie magnitude).digits ≠ 0 := by
  intro zero
  have rounded := round_shortest tie nonzero finite
  dsimp only at rounded
  rw [zero, Nat.zero_mul, Format.round_zero] at rounded
  omega

/-- What a style writes for a decimal has no needless zero in front. -/
theorem Style.numeral_plain (style : Style) (negative : Bool) {decimal : Decimal}
    (nonzero : decimal.digits ≠ 0) : (style.numeral negative decimal).Plain where
  formed := style.numeral_wellFormed negative decimal
  leading := by
    have head := head_decimalDigits nonzero
    have some : decimalDigits decimal.digits ≠ [] := Nat.toDigits_ne_nil
    unfold numeral
    dsimp only
    generalize decimalDigits decimal.digits = digits at *
    obtain ⟨first, others, rfl⟩ := List.exists_cons_of_ne_nil some
    rw [List.head?_cons] at head
    split
    · split
      · exact .inl rfl
      · split
        · exact .inr (by simpa using head)
        · right
          rename_i positive _
          obtain ⟨count, taken⟩ :
              ∃ count, (((first :: others).length : Int) + decimal.exponent).toNat = count + 1 :=
            Nat.exists_eq_succ_of_ne_zero (by omega)
          rw [taken]
          simpa using head
    · exact .inr (by simpa using head)

/-- The numerals of finite numbers are as documents have them. -/
theorem Binary.numeral_plain {format : Format} {number : Binary format} (finite : number.isFinite)
    (style : Style) : (number.numeral style).Plain := by
  refine ⟨number.numeral_wellFormed style, ?_⟩
  unfold numeral
  split
  · exact .inl rfl
  · rename_i nonzero
    have positive : 0 < number.magnitude := Nat.pos_of_ne_zero (by simpa [isZero] using nonzero)
    have small : number.magnitude < format.infinity := by simpa [isFinite] using finite
    exact (style.numeral_plain number.negative
      (digits_shortest_ne_zero style.tie positive small)).leading

end Number

namespace Json

/-- An exponent begins with no digit and no point. -/
theorem exponentText_behind (exponent : Option (Sign × List Char)) {rest : List Char}
    (behind : Behind rest) :
    Digitless (Numeral.exponentText exponent ++ rest) ∧
      (Numeral.exponentText exponent ++ rest).head? ≠ some '.' := by
  match exponent with
  | none =>
      refine ⟨behind.digitless, fun point => ?_⟩
      have member := behind '.' point
      simp at member
  | some (sign, digits) => exact ⟨digitless_cons rfl _, by simp [Numeral.exponentText]⟩

/-- A fraction begins with its point, not with a digit. -/
theorem fractionText_digitless (fraction : List Char) {rest : List Char} (ends : Digitless rest) :
    Digitless (fractionText fraction ++ rest) := by
  cases fraction with
  | nil => exact ends
  | cons first others => exact digitless_cons rfl _

/-- The parts of a numeral behind its sign are scanned one after the other. -/
theorem scanParts_append {numeral : Numeral} (plain : numeral.Plain) {rest : List Char}
    (behind : Behind rest) :
    (do
      let (whole, text) ← scanWhole (numeral.whole ++
        (fractionText numeral.fraction ++ (Numeral.exponentText numeral.exponent ++ rest)))
      let (fraction, text) ← scanFraction text
      let (exponent, text) ← scanExponent text
      return ((⟨numeral.negative, whole, fraction, exponent⟩ : Numeral), text)) =
        .ok (numeral, rest) := by
  obtain ⟨⟨nonempty, wholeDigits, fractionDigits, exponentDigits⟩, leading⟩ := plain
  obtain ⟨digitless, pointless⟩ := exponentText_behind numeral.exponent behind
  have whole := scanWhole_append nonempty wholeDigits leading
    (fractionText_digitless numeral.fraction digitless)
  have fraction := scanFraction_append fractionDigits digitless pointless
  have exponent := scanExponent_append exponentDigits behind
  rw [whole]
  change (scanFraction _).bind _ = _
  rw [fraction]
  change (scanExponent _).bind _ = _
  rw [exponent]
  rfl

/-- A numeral is scanned from its text as it was. -/
theorem scanNumeral_append {numeral : Numeral} (plain : numeral.Plain) {rest : List Char}
    (behind : Behind rest) : scanNumeral (numeral.toList ++ rest) = .ok (numeral, rest) := by
  have parts := scanParts_append plain behind
  have text : numeral.toList ++ rest = (if numeral.negative then ['-'] else []) ++
      (numeral.whole ++
        (fractionText numeral.fraction ++ (Numeral.exponentText numeral.exponent ++ rest))) := by
    rw [Numeral.toList_eq, fractionText]
    simp only [List.append_assoc]
  rw [text]
  cases sign : numeral.negative with
  | true =>
      rw [sign] at parts
      exact parts
  | false =>
      rw [sign] at parts
      simp only [Bool.false_eq_true, if_false, List.nil_append]
      unfold scanNumeral
      split
      rename_i negative after signed
      split at signed
      · -- no digit is a minus sign
        rename_i minus
        have all := plain.formed.wholeDigits
        obtain ⟨first, others, digits⟩ := List.exists_cons_of_ne_nil plain.formed.whole
        rw [digits] at minus all
        have digit := all first (List.mem_cons_self ..)
        rw [(List.cons.inj minus).1] at digit
        cases digit
      · cases signed
        exact parts

end Json

end ShadeTree
