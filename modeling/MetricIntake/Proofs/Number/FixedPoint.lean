import MetricIntake.Proofs.Number.Literal
import MetricIntake.Proofs.Number.Nearest

/-!
Contract: fixed-point texts and the numbers that they are read as.

Owns:
- the digits of a fixed-point text, which spell the magnitude rounded to its places;
- the number nearest to a decimal of six places: how far it is from the number that was rounded,
  that it has the same decimal, and from which magnitude on it is the number itself.

Does not own: the names of infinities and of what is no number.

## Why six places are kept

Below `2 ^ 33` two neighbouring numbers are at most `2 ^ -20` apart, so the nearest number to a decimal
is at most `2 ^ -21` away, which is less than half of a millionth: rounding it to six places gives the
decimal again. From `2 ^ 33` on all numbers are multiples of `2 ^ -19`, which is more than a millionth.
The decimal is half a millionth away from the number at most, so no other number is as near.
-/

set_option autoImplicit false

namespace MetricIntake

/-! ### Digits -/

namespace Decimal

theorem ofDigits_append (front back : List Nat) :
    ofDigits (front ++ back) = ofDigits front * 10 ^ back.length + ofDigits back := by
  induction back using List.reverseRecOn with
  | nil => simp [ofDigits]
  | append_singleton back last inductionHypothesis =>
      rw [← List.append_assoc, ofDigits_append_singleton, inductionHypothesis,
        ofDigits_append_singleton, List.length_append, List.length_singleton, Nat.pow_succ]
      ring

theorem length_lowestDigits (count number : Nat) : (lowestDigits count number).length = count := by
  induction count generalizing number with
  | zero => rfl
  | succ count inductionHypothesis => simp [lowestDigits, inductionHypothesis]

theorem ofDigits_lowestDigits (count number : Nat) :
    ofDigits (lowestDigits count number) = number % 10 ^ count := by
  induction count generalizing number with
  | zero => simp [lowestDigits, ofDigits, Nat.mod_one]
  | succ count inductionHypothesis =>
      rw [lowestDigits, ofDigits_append_singleton, inductionHypothesis, Nat.pow_succ',
        Nat.mod_mul]
      ring

theorem ofDigits_lt {spelled : List Nat} (small : ∀ digit ∈ spelled, digit < 10) :
    ofDigits spelled < 10 ^ spelled.length := by
  induction spelled using List.reverseRecOn with
  | nil => simp [ofDigits]
  | append_singleton front last inductionHypothesis =>
      have lastSmall := small last (by simp)
      have frontSmall := inductionHypothesis fun digit member =>
        small digit (List.mem_append_left _ member)
      rw [ofDigits_append_singleton, List.length_append, List.length_singleton, Nat.pow_succ]
      omega

/-- The lowest digits of a number are those at its end. -/
theorem lowestDigits_ofDigits (front : List Nat) {back : List Nat}
    (small : ∀ digit ∈ back, digit < 10) :
    lowestDigits back.length (ofDigits (front ++ back)) = back := by
  induction back using List.reverseRecOn with
  | nil => rfl
  | append_singleton back last inductionHypothesis =>
      have lastSmall := small last (by simp)
      have others := inductionHypothesis fun digit member =>
        small digit (List.mem_append_left _ member)
      rw [← List.append_assoc, ofDigits_append_singleton, List.length_append, List.length_singleton,
        lowestDigits]
      have quotient (number : Nat) : (10 * number + last) / 10 = number := by omega
      have remainder (number : Nat) : (10 * number + last) % 10 = last := by omega
      rw [quotient, remainder, others]

theorem ofDigits_mod_two {spelled : List Nat} (nonempty : spelled ≠ []) :
    ofDigits spelled % 2 = spelled.getLast nonempty % 2 := by
  conv_lhs => rw [← List.dropLast_append_getLast nonempty, ofDigits_append_singleton]
  omega

/-- The digits before and after the point spell the count of units. -/
theorem ofDigits_units (places count : Nat) :
    ofDigits (digits (count / power places) ++ lowestDigits places count) = count := by
  have scale : power places = 10 ^ places := rfl
  rw [ofDigits_append, ofDigits_digits, ofDigits_lowestDigits, length_lowestDigits, scale]
  exact Nat.div_add_mod' count (10 ^ places)

end Decimal

/-! ### Units -/

namespace FixedPoint

open Binary64

/-- The units of a number are its magnitude in units of the last place, rounded. -/
theorem units_rounds (places : Nat) (number : Binary64) :
    Decimal.Rounds (number.magnitude * 10 ^ places) (units places number) := by
  have scaled := Decimal.shift_ratio number.significand 1 (-number.scale)
  rw [neg_neg, Nat.cast_one, div_one, zpow_neg, div_inv_eq_mul] at scaled
  have positive : 0 < 1 <<< (-number.scale).toNat := by
    rw [Nat.shiftLeft_eq]
    positivity
  have rounds := Decimal.divideHalfEven_rounds
    (number.significand <<< number.scale.toNat * Decimal.power places) positive
  rw [Nat.cast_mul, Decimal.cast_power, mul_div_right_comm, scaled] at rounds
  exact rounds

/-- The text of a number is read as the number nearest to its decimal. -/
theorem binary64?_text (places : Nat) (number : Binary64) :
    Literal.binary64? (Utf8.encode (text places number)) =
      some (ofDecimal number.isNegative (units places number) (-(places : Int))) := by
  rw [Decimal.encode_fixedText]
  by_cases none : places = 0
  · subst none
    rw [if_pos rfl, Literal.binary64?_spelling (Decimal.digits_lt_ten _) (Decimal.digits_ne_nil _) _ _
      (by simp)]
    have whole : Decimal.power 0 = 1 := rfl
    simp [Decimal.ofDigits_digits, whole]
  · have small : ∀ digit ∈ (some (Decimal.lowestDigits places (units places number))).getD [],
        digit < 10 := Decimal.lowestDigits_lt_ten _ _
    rw [if_neg none, Literal.binary64?_spelling (Decimal.digits_lt_ten _)
      (Decimal.digits_ne_nil _) _ _ small, Option.getD_some, Decimal.ofDigits_units,
      Decimal.length_lowestDigits]

end FixedPoint

/-! ### Nearness -/

namespace Binary64

/-- The magnitude from which on all numbers are multiples of `2 ^ -19`. -/
def coarse : ℚ := 2 ^ (33 : ℤ)

theorem exists_coarse : ∃ number : Binary64, number.isNaN = false ∧ number.magnitude = coarse := by
  have small : 1055 * fractionPlace + fractionPlace < signPlace := by decide
  have word := magnitudeCode_ofCode false small
  refine ⟨ofCode false (1055 * fractionPlace + fractionPlace), ?_, ?_⟩
  · rw [isNaN_eq_false_iff, word]
    decide
  · rw [magnitude_of_code word (by decide) (.inr (Nat.le_refl _)), cast_fractionPlace, coarse,
      ← zpow_add₀ (by norm_num : (2 : ℚ) ≠ 0)]
    norm_num [leastScale]

/-- Below the coarse numbers some number is at most `2 ^ -21` away. -/
theorem exists_near {exact : ℚ} (nonneg : 0 ≤ exact) (fine : exact ≤ coarse) :
    ∃ number : Binary64, number.isNaN = false ∧ |number.magnitude - exact| ≤ 2 ^ (-21 : ℤ) := by
  rcases nonneg.eq_or_lt with rfl | positive
  · refine ⟨zero false, isNaN_zero false, ?_⟩
    rw [magnitude_zero, sub_zero, abs_zero]
    positivity
  rcases fine.eq_or_lt with rfl | below
  · obtain ⟨number, isNumber, same⟩ := exists_coarse
    refine ⟨number, isNumber, ?_⟩
    rw [same, sub_self, abs_zero]
    positivity
  have numeratorPositive : 0 < exact.num.toNat := by
    have numerator := Rat.num_pos.mpr positive
    omega
  have ratio : ((exact.num.toNat : ℕ) : ℚ) / exact.den = exact := by
    have numerator : ((exact.num.toNat : ℕ) : ℤ) = exact.num := by omega
    rw [← Int.cast_natCast, numerator, Rat.num_div_den]
  obtain ⟨unit, rounded, inUnits, -⟩ := exists_inUnits numeratorPositive exact.den_pos
  rw [ratio] at inUnits
  have unitFine : unit ≤ -20 := by
    rcases inUnits.reached with least | reached
    · rw [least]
      decide
    · rw [cast_fractionPlace, ← zpow_add₀ (by norm_num : (2 : ℚ) ≠ 0)] at reached
      have lower := (zpow_lt_zpow_iff_right₀ (by norm_num : (1 : ℚ) < 2)).mp
        (reached.trans_lt below)
      omega
  have inRange : (unit + leastScale).toNat * fractionPlace + rounded ≤ infinityCode := by
    have few := inUnits.rounded_le
    simp only [fractionPlace, leastScale, infinityCode, specialField] at *
    omega
  refine ⟨ofCode false (unitCode unit rounded), (inUnits.isNearest false nonneg).isNumber, ?_⟩
  · rw [inUnits.magnitude_ofCode false inRange, distance_eq]
    calc |(rounded : ℚ) - exact / 2 ^ unit| * 2 ^ unit ≤ 1 / 2 * 2 ^ (-20 : ℤ) := by
          gcongr
          · exact inUnits.rounds.near
          · norm_num
      _ = 2 ^ (-21 : ℤ) := by norm_num

/-- Numbers from there on are multiples of `2 ^ -19`. -/
theorem exists_steps {number : Binary64} (large : coarse ≤ number.magnitude) :
    ∃ steps : ℕ, number.magnitude = steps * 2 ^ (-19 : ℤ) := by
  rcases number.magnitude_grid (-19) with onGrid | ⟨-, below⟩
  · exact onGrid
  · have start : (fractionPlace : ℚ) * 2 ^ (-19 : ℤ) = coarse := by
      norm_num [fractionPlace, coarse]
    rw [start] at below
    exact absurd large (not_le.mpr below)

/-- Two of them that are less than a step apart are the same. -/
theorem magnitude_eq_of_coarse {left right : Binary64} (leftLarge : coarse ≤ left.magnitude)
    (rightLarge : coarse ≤ right.magnitude)
    (near : |left.magnitude - right.magnitude| < 2 ^ (-19 : ℤ)) :
    left.magnitude = right.magnitude := by
  obtain ⟨leftSteps, leftMagnitude⟩ := exists_steps leftLarge
  obtain ⟨rightSteps, rightMagnitude⟩ := exists_steps rightLarge
  have positive : (0 : ℚ) < 2 ^ (-19 : ℤ) := by positivity
  rw [leftMagnitude, rightMagnitude, ← sub_mul, abs_mul, abs_of_pos positive,
    mul_lt_iff_lt_one_left positive] at near
  have same : leftSteps = rightSteps := by
    have whole : |(leftSteps : ℤ) - rightSteps| < 1 := by exact_mod_cast near
    rw [Int.abs_lt_one_iff] at whole
    omega
  rw [leftMagnitude, rightMagnitude, same]

end Binary64

/-! ### Six places -/

namespace FixedPoint

open Binary64

/-- The number nearest to the decimal of six places of another number, with the same sign. -/
structure ReadsBack (number found : Binary64) : Prop where
  sign : found.isNegative = number.isNegative
  nearest : IsNearest (signed number.isNegative (units 6 number / 10 ^ 6)) found

namespace ReadsBack

variable {number found : Binary64}

/-- The decimal is half a millionth away at most. -/
theorem decimal_near (number : Binary64) :
    |(units 6 number : ℚ) / 10 ^ 6 - number.magnitude| ≤ 1 / 2 / 10 ^ 6 := by
  have near := (units_rounds 6 number).near
  rw [div_sub' (by norm_num), abs_div, abs_of_pos (by norm_num : (0 : ℚ) < 10 ^ 6), mul_comm]
  gcongr

theorem coarse_eq : coarse = ((2 ^ 33 * 10 ^ 6 : ℕ) : ℚ) / 10 ^ 6 := by
  norm_num [coarse]

theorem decimal_le (fine : number.magnitude ≤ coarse) : (units 6 number : ℚ) / 10 ^ 6 ≤ coarse := by
  rw [coarse_eq, le_div_iff₀ (by norm_num)] at fine
  rw [coarse_eq]
  have bounded := (units_rounds 6 number).ge_of_ge fine
  gcongr

theorem le_decimal (large : coarse ≤ number.magnitude) :
    coarse ≤ (units 6 number : ℚ) / 10 ^ 6 := by
  rw [coarse_eq, div_le_iff₀ (by norm_num)] at large
  rw [coarse_eq]
  have bounded := (units_rounds 6 number).le_of_le large
  gcongr

theorem nearer (reads : ReadsBack number found) {other : Binary64} (isNumber : other.isNaN = false) :
    |found.magnitude - units 6 number / 10 ^ 6| ≤ |other.magnitude - units 6 number / 10 ^ 6| :=
  reads.nearest.magnitude_le reads.sign isNumber

/-- Below the coarse numbers the number that is read is less than half a millionth away from the
decimal. -/
theorem near_of_fine (reads : ReadsBack number found) (fine : number.magnitude ≤ coarse) :
    |found.magnitude - units 6 number / 10 ^ 6| ≤ 2 ^ (-21 : ℤ) := by
  obtain ⟨other, isNumber, near⟩ := exists_near (by positivity) (decimal_le fine)
  exact (reads.nearer isNumber).trans near

/-- **From there on the number that is read is the number that was written.** -/
theorem eq_of_coarse (reads : ReadsBack number found) (isNumber : number.isNaN = false)
    (large : coarse ≤ number.magnitude) : found = number := by
  have decimalLarge := le_decimal large
  have decimalNear := decimal_near number
  have foundNear := (reads.nearer isNumber).trans ((abs_sub_comm _ _).trans_le decimalNear)
  have foundLarge : coarse ≤ found.magnitude := by
    -- A number below would be farther from the decimal than the first coarse one.
    by_contra below
    obtain ⟨first, firstNumber, start⟩ := exists_coarse
    have nearer := reads.nearer firstNumber
    rw [start, abs_of_nonpos (by linarith), abs_of_nonpos (by linarith [not_le.mp below])] at nearer
    linarith [not_le.mp below]
  apply eq_of_code_eq reads.sign
  apply code_eq_of_magnitude_eq
  apply magnitude_eq_of_coarse foundLarge large
  calc |found.magnitude - number.magnitude|
      ≤ |found.magnitude - units 6 number / 10 ^ 6| +
          |units 6 number / 10 ^ 6 - number.magnitude| := abs_sub_le _ _ _
    _ ≤ 1 / 2 / 10 ^ 6 + 1 / 2 / 10 ^ 6 := add_le_add foundNear decimalNear
    _ < 2 ^ (-19 : ℤ) := by norm_num

/-- **The number that is read is less than a millionth away.** -/
theorem magnitude_near (reads : ReadsBack number found) (isNumber : number.isNaN = false) :
    |found.magnitude - number.magnitude| < 1 / 10 ^ 6 := by
  rcases le_total number.magnitude coarse with fine | large
  · calc |found.magnitude - number.magnitude|
        ≤ |found.magnitude - units 6 number / 10 ^ 6| +
            |units 6 number / 10 ^ 6 - number.magnitude| := abs_sub_le _ _ _
      _ ≤ 2 ^ (-21 : ℤ) + 1 / 2 / 10 ^ 6 :=
          add_le_add (reads.near_of_fine fine) (decimal_near number)
      _ < 1 / 10 ^ 6 := by norm_num
  · rw [reads.eq_of_coarse isNumber large, sub_self, abs_zero]
    norm_num

/-- **It has the same decimal.** -/
theorem units_eq (reads : ReadsBack number found) (isNumber : number.isNaN = false) :
    units 6 found = units 6 number := by
  rcases le_total number.magnitude coarse with fine | large
  · apply (units_rounds 6 found).eq_of_near
    have near := reads.near_of_fine fine
    have scaled : (units 6 number : ℚ) - found.magnitude * 10 ^ 6 =
        -((found.magnitude - units 6 number / 10 ^ 6) * 10 ^ 6) := by ring
    rw [scaled, abs_neg, abs_mul, abs_of_pos (by norm_num : (0 : ℚ) < 10 ^ 6)]
    calc |found.magnitude - units 6 number / 10 ^ 6| * 10 ^ 6 ≤ 2 ^ (-21 : ℤ) * 10 ^ 6 := by gcongr
      _ < 1 / 2 := by norm_num
  · rw [reads.eq_of_coarse isNumber large]

theorem isFinite (reads : ReadsBack number found) (finite : number.isFinite = true) :
    found.isFinite = true := by
  have isNumber := number.isNaN_eq_false_of_isFinite finite
  rcases le_total number.magnitude coarse with fine | large
  · apply reads.nearest.isFinite_of_le reads.sign
    exact (decimal_le fine).trans (zpow_le_zpow_right₀ (by norm_num) (by norm_num))
  · rwa [reads.eq_of_coarse isNumber large]

end ReadsBack

end FixedPoint

end MetricIntake