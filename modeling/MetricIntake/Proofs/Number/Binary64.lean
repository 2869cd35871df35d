import Mathlib.Algebra.Order.Field.Power
import Mathlib.Data.Rat.Cast.Order
import Mathlib.Tactic.Linarith
import Mathlib.Tactic.NormNum
import Mathlib.Tactic.Positivity
import Mathlib.Tactic.Ring
import MetricIntake.Number.Binary64

/-!
Contract: the exact values of floating-point numbers.

Owns:
- a number as its sign and its word without sign;
- the exact value of a number, with a place for the infinities;
- the order of magnitudes, which is the order of the words without sign.

Does not own: rounding.
-/

set_option autoImplicit false

namespace MetricIntake.Binary64

/-! ### Words -/

/-- The word of the infinity without its sign. Greater words are no numbers. -/
def infinityCode : Nat := specialField * fractionPlace

theorem infinityCode_lt_signPlace : infinityCode < signPlace := by decide

theorem cast_fractionPlace : (fractionPlace : ℚ) = 2 ^ (52 : ℤ) := by norm_num [fractionPlace]

theorem magnitudeCode_lt (number : Binary64) : number.magnitudeCode < signPlace :=
  Nat.mod_lt _ (by decide)

theorem isNegative_iff (number : Binary64) :
    number.isNegative = true ↔ signPlace ≤ number.bits.toNat :=
  decide_eq_true_iff

section OfCode

variable (negative : Bool) {code : Nat} (small : code < signPlace)

include small

theorem toNat_ofCode :
    (ofCode negative code).bits.toNat = if negative then signPlace + code else code := by
  apply UInt64.toNat_ofNat_of_lt
  simp only [signPlace, UInt64.size] at *
  split <;> omega

theorem magnitudeCode_ofCode : (ofCode negative code).magnitudeCode = code := by
  rw [magnitudeCode, toNat_ofCode negative small]
  simp only [signPlace] at *
  split <;> omega

theorem isNegative_ofCode : (ofCode negative code).isNegative = negative := by
  rw [isNegative, toNat_ofCode negative small]
  cases negative <;> simp [small]

end OfCode

/-- A number is its sign and its word without sign. -/
theorem ofCode_eq_self (number : Binary64) :
    ofCode number.isNegative number.magnitudeCode = number := by
  have bound := number.bits.toNat_lt
  have word : (if number.isNegative then signPlace + number.magnitudeCode
      else number.magnitudeCode) = number.bits.toNat := by
    by_cases negative : number.isNegative = true
    · have high := number.isNegative_iff.mp negative
      rw [if_pos negative]
      simp only [magnitudeCode, signPlace] at *
      omega
    · have low := mt number.isNegative_iff.mpr negative
      rw [if_neg negative]
      simp only [magnitudeCode, signPlace] at *
      omega
  rw [ofCode, word, UInt64.ofNat_toNat]

section Classes

variable (number : Binary64)

theorem isNaN_eq_false_iff : number.isNaN = false ↔ number.magnitudeCode ≤ infinityCode := by
  have bound := number.magnitudeCode_lt
  simp only [isNaN, exponentField, fraction, infinityCode, Bool.and_eq_false_iff,
    beq_eq_false_iff_ne, bne_eq_false_iff_eq, ne_eq, signPlace, fractionPlace, specialField] at *
  omega

theorem isInfinite_iff : number.isInfinite = true ↔ number.magnitudeCode = infinityCode := by
  simp only [isInfinite, exponentField, fraction, infinityCode, Bool.and_eq_true, beq_iff_eq,
    fractionPlace, specialField]
  omega

/-- A number is finite when it is a number and not infinite. -/
def isFinite : Bool := !number.isNaN && !number.isInfinite

theorem isFinite_iff : number.isFinite = true ↔ number.magnitudeCode < infinityCode := by
  rw [isFinite, Bool.and_eq_true, Bool.not_eq_true', Bool.not_eq_true', isNaN_eq_false_iff,
    ← Bool.not_eq_true, isInfinite_iff]
  omega

theorem isNaN_eq_false_of_isFinite (finite : number.isFinite = true) : number.isNaN = false :=
  number.isNaN_eq_false_iff.mpr (number.isFinite_iff.mp finite).le

end Classes

/-! ### Values -/

/-- The exact magnitude of a finite number. An infinity stands at `2 ^ 1024`, where the number after
the greatest finite one would be. -/
def magnitude (number : Binary64) : ℚ := number.significand * 2 ^ number.scale

/-- A magnitude with a sign before it. -/
def signed (negative : Bool) (magnitude : ℚ) : ℚ := if negative then -magnitude else magnitude

/-- The exact value of a number that is finite; an infinity stands for the first value out of
range. -/
def toRat (number : Binary64) : ℚ := signed number.isNegative number.magnitude

/-- The number of binades below a number, the two lowest taken as one: the power of two that its
significand is multiplied by, counted from the least. -/
def binade (number : Binary64) : Nat := max number.exponentField 1 - 1

theorem scale_eq (number : Binary64) : number.scale = number.binade - (leastScale : ℤ) := by
  rw [scale, binade]
  omega

/-- The word without sign holds the significand on top of the binade. -/
theorem magnitudeCode_eq (number : Binary64) :
    number.magnitudeCode = number.binade * fractionPlace + number.significand ∧
      number.significand < 2 * fractionPlace ∧
      (number.binade = 0 ∨ fractionPlace ≤ number.significand) := by
  by_cases least : number.exponentField = 0
  · rw [binade, significand, if_pos least]
    simp only [exponentField, fraction, fractionPlace] at *
    omega
  · rw [binade, significand, if_neg least]
    simp only [exponentField, fraction, fractionPlace] at *
    omega

/-- A significand may also be the least power of two that is too great for one: the word is then that
of the next binade, and the value is the same. -/
theorem magnitude_of_code {number : Binary64} {binade significand : Nat}
    (word : number.magnitudeCode = binade * fractionPlace + significand)
    (small : significand ≤ 2 * fractionPlace) (normal : binade = 0 ∨ fractionPlace ≤ significand) :
    number.magnitude = significand * 2 ^ (binade - leastScale : ℤ) := by
  obtain ⟨same, ownSmall, ownNormal⟩ := number.magnitudeCode_eq
  rw [magnitude, scale_eq]
  rcases Nat.lt_or_ge significand (2 * fractionPlace) with below | carried
  · have sameBinade : number.binade = binade := by
      simp only [fractionPlace] at *
      omega
    have sameSignificand : number.significand = significand := by
      simp only [fractionPlace] at *
      omega
    rw [sameBinade, sameSignificand]
  · have nextBinade : number.binade = binade + 1 := by
      simp only [fractionPlace] at *
      omega
    have leading : number.significand = fractionPlace := by
      simp only [fractionPlace] at *
      omega
    have twice : significand = 2 * fractionPlace := Nat.le_antisymm small carried
    rw [nextBinade, leading, twice]
    have next : ((binade + 1 : ℕ) : ℤ) - leastScale = (binade - leastScale) + 1 := by
      push_cast
      ring
    rw [next, zpow_add_one₀ (by norm_num)]
    push_cast
    ring

theorem magnitude_nonneg (number : Binary64) : 0 ≤ number.magnitude := by
  unfold magnitude
  positivity

/-- **The order of magnitudes is the order of the words without sign.** -/
theorem magnitude_lt_of_code_lt {left right : Binary64}
    (below : left.magnitudeCode < right.magnitudeCode) : left.magnitude < right.magnitude := by
  obtain ⟨leftWord, leftSmall, leftNormal⟩ := left.magnitudeCode_eq
  obtain ⟨rightWord, rightSmall, rightNormal⟩ := right.magnitudeCode_eq
  simp only [magnitude, scale_eq]
  rcases Nat.lt_trichotomy left.binade right.binade with lower | same | higher
  · -- A lower binade ends where the next one begins.
    have leading : fractionPlace ≤ right.significand := by omega
    have steps : ((left.binade : ℤ) - leastScale) + 1 ≤ right.binade - leastScale := by omega
    calc (left.significand : ℚ) * 2 ^ (left.binade - leastScale : ℤ)
        < (2 * fractionPlace : ℕ) * 2 ^ (left.binade - leastScale : ℤ) := by
          gcongr
      _ = fractionPlace * 2 ^ ((left.binade - leastScale : ℤ) + 1) := by
          rw [zpow_add_one₀ (by norm_num)]
          push_cast
          ring
      _ ≤ right.significand * 2 ^ (right.binade - leastScale : ℤ) := by
          gcongr
          norm_num
  · have smaller : left.significand < right.significand := by
      rw [leftWord, rightWord, same] at below
      omega
    rw [same]
    gcongr
  · simp only [fractionPlace] at *
    omega

theorem magnitude_eq_of_code_eq {left right : Binary64}
    (same : left.magnitudeCode = right.magnitudeCode) : left.magnitude = right.magnitude := by
  obtain ⟨word, small, normal⟩ := right.magnitudeCode_eq
  rw [magnitude_of_code word small.le normal, magnitude_of_code (same.trans word) small.le normal]

theorem code_eq_of_magnitude_eq {left right : Binary64}
    (same : left.magnitude = right.magnitude) : left.magnitudeCode = right.magnitudeCode := by
  rcases Nat.lt_trichotomy left.magnitudeCode right.magnitudeCode with below | equal | above
  · exact absurd same (magnitude_lt_of_code_lt below).ne
  · exact equal
  · exact absurd same (magnitude_lt_of_code_lt above).ne'

end MetricIntake.Binary64
