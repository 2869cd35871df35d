import MetricIntake.Proofs.Number.Binary64
import MetricIntake.Proofs.Number.Decimal
import MetricIntake.Proofs.Number.Rounding

/-!
Contract: the floating-point number that is nearest to a value.

Owns:
- what the nearest number is, a tie going to the even significand;
- that there is only one of each sign;
- the nearest number to a fraction and to a decimal, out of reach or not;
- from which value on the nearest number is an infinity.

Does not own: how a value is written.

## Overflow

The infinities take part as the numbers `2 ^ 1024` and `-2 ^ 1024`, which have an even significand.
So a value that is nearer to them than to the greatest finite number, or half-way between, has an
infinity as its nearest number.
-/

set_option autoImplicit false

namespace MetricIntake.Binary64

/-- A number is nearest to a value when no number is nearer. Where two are equally near, it is the one
with the even significand. -/
structure IsNearest (exact : ℚ) (number : Binary64) : Prop where
  isNumber : number.isNaN = false
  least : ∀ other : Binary64, other.isNaN = false →
    |number.toRat - exact| ≤ |other.toRat - exact|
  even : ∀ other : Binary64, other.isNaN = false →
    |other.toRat - exact| = |number.toRat - exact| →
      other.toRat = number.toRat ∨ number.significand % 2 = 0

/-! ### Signs -/

theorem abs_signed_sub_signed (negative : Bool) (left right : ℚ) :
    |signed negative left - signed negative right| = |left - right| := by
  cases negative with
  | true =>
      simp only [signed, if_true]
      rw [neg_sub_neg, abs_sub_comm]
  | false => simp only [signed, Bool.false_eq_true, if_false]

theorem abs_signed_sub_of_ne {negative other : Bool} (differ : negative ≠ other) {left right : ℚ}
    (leftNonneg : 0 ≤ left) (rightNonneg : 0 ≤ right) :
    |signed negative left - signed other right| = left + right := by
  cases negative <;> cases other <;> simp only [signed, if_true, Bool.false_eq_true, if_false]
  · exact absurd rfl differ
  · rw [sub_neg_eq_add, abs_of_nonneg (by linarith)]
  · rw [abs_of_nonpos (by linarith)]
    ring
  · exact absurd rfl differ

theorem signed_zero (negative : Bool) : signed negative 0 = 0 := by
  cases negative <;> simp [signed]

theorem abs_signed (negative : Bool) {magnitude : ℚ} (nonneg : 0 ≤ magnitude) :
    |signed negative magnitude| = magnitude := by
  cases negative <;> simp [signed, abs_of_nonneg nonneg]

theorem magnitude_zero (negative : Bool) : (zero negative).magnitude = 0 := by
  cases negative <;> decide +kernel

theorem isNaN_zero (negative : Bool) : (zero negative).isNaN = false := by
  cases negative <;> decide +kernel

theorem isNaN_quietNaN (negative : Bool) : (quietNaN negative).isNaN = true := by
  cases negative <;> decide +kernel

/-- Numbers of the sign of a value decide which number is nearest. -/
theorem isNearest_of_magnitude {negative : Bool} {exact : ℚ} (nonneg : 0 ≤ exact) {number : Binary64}
    (sign : number.isNegative = negative) (isNumber : number.isNaN = false)
    (least : ∀ other : Binary64, other.isNaN = false →
      |number.magnitude - exact| ≤ |other.magnitude - exact|)
    (even : ∀ other : Binary64, other.isNaN = false →
      |other.magnitude - exact| = |number.magnitude - exact| →
        other.magnitude = number.magnitude ∨ number.significand % 2 = 0) :
    IsNearest (signed negative exact) number := by
  subst sign
  have own : |number.toRat - signed number.isNegative exact| = |number.magnitude - exact| :=
    abs_signed_sub_signed _ _ _
  have apart (other : Binary64) : |other.magnitude - exact| ≤ other.magnitude + exact := by
    have otherNonneg := other.magnitude_nonneg
    rw [abs_le]
    constructor <;> linarith
  refine ⟨isNumber, ?_, ?_⟩
  · intro other otherNumber
    rw [own]
    by_cases same : other.isNegative = number.isNegative
    · rw [toRat, same, abs_signed_sub_signed]
      exact least other otherNumber
    · rw [toRat, abs_signed_sub_of_ne same other.magnitude_nonneg nonneg]
      exact (least other otherNumber).trans (apart other)
  · intro other otherNumber tie
    rw [own] at tie
    by_cases same : other.isNegative = number.isNegative
    · rw [toRat, same, abs_signed_sub_signed] at tie
      rcases even other otherNumber tie with equal | evenSignificand
      · exact .inl (by rw [toRat, toRat, same, equal])
      · exact .inr evenSignificand
    · -- A tie across zero is one at zero, where the signs do not tell values apart.
      rw [toRat, abs_signed_sub_of_ne same other.magnitude_nonneg nonneg] at tie
      have across : |other.magnitude - exact| = |number.magnitude - exact| :=
        le_antisymm ((apart other).trans tie.le) (least other otherNumber)
      rcases even other otherNumber across with equal | evenSignificand
      · have atZero := least (zero false) (isNaN_zero false)
        rw [magnitude_zero, zero_sub, abs_neg, abs_of_nonneg nonneg, ← tie, equal] at atZero
        have nothing : number.magnitude = 0 := le_antisymm (by linarith) number.magnitude_nonneg
        exact .inl (by rw [toRat, toRat, equal, nothing, signed_zero, signed_zero])
      · exact .inr evenSignificand

/-- A number of any magnitude has a twin of either sign. -/
theorem exists_twin (negative : Bool) {number : Binary64} (isNumber : number.isNaN = false) :
    ∃ twin : Binary64, twin.isNaN = false ∧ twin.isNegative = negative ∧
      twin.magnitude = number.magnitude := by
  have word := magnitudeCode_ofCode negative number.magnitudeCode_lt
  refine ⟨ofCode negative number.magnitudeCode, ?_, isNegative_ofCode _ number.magnitudeCode_lt,
    magnitude_eq_of_code_eq word⟩
  rw [isNaN_eq_false_iff, word]
  exact number.isNaN_eq_false_iff.mp isNumber

section Magnitudes

variable {negative : Bool} {exact : ℚ} {number : Binary64}
  (nearest : IsNearest (signed negative exact) number) (sign : number.isNegative = negative)

include nearest sign

/-- Where the signs are the same, no magnitude is nearer. -/
theorem IsNearest.magnitude_le {other : Binary64} (isNumber : other.isNaN = false) :
    |number.magnitude - exact| ≤ |other.magnitude - exact| := by
  obtain ⟨twin, twinNumber, twinSign, same⟩ := exists_twin negative isNumber
  have least := nearest.least twin twinNumber
  rwa [toRat, toRat, sign, twinSign, abs_signed_sub_signed, abs_signed_sub_signed, same] at least

theorem IsNearest.even_of_magnitude {other : Binary64} (isNumber : other.isNaN = false)
    (tie : |other.magnitude - exact| = |number.magnitude - exact|)
    (differ : other.magnitude ≠ number.magnitude) : number.significand % 2 = 0 := by
  obtain ⟨twin, twinNumber, twinSign, same⟩ := exists_twin negative isNumber
  rw [← same, ← abs_signed_sub_signed negative twin.magnitude,
    ← abs_signed_sub_signed negative number.magnitude] at tie
  have even := nearest.even twin twinNumber
  rw [toRat, toRat, sign, twinSign] at even
  apply (even tie).resolve_left
  intro equal
  apply differ
  have absolute := congrArg abs equal
  rwa [abs_signed _ twin.magnitude_nonneg, abs_signed _ number.magnitude_nonneg, same] at absolute

end Magnitudes

/-! ### There is only one -/

theorem significand_mod_two (number : Binary64) :
    number.significand % 2 = number.magnitudeCode % 2 := by
  have word := number.magnitudeCode_eq.1
  simp only [fractionPlace] at word
  omega

theorem abs_sub_lt_of_between {low middle high exact : ℚ} (above : low < middle)
    (below : middle < high) (tie : |low - exact| = |high - exact|) :
    |middle - exact| < |low - exact| := by
  rcases abs_eq_abs.mp tie with same | opposite
  · linarith
  · have lowSide : low - exact < 0 := by linarith
    rw [abs_of_neg lowSide, abs_lt]
    constructor <;> linarith

/-- Between two numbers of one sign with even significands there is a third number. -/
theorem exists_nearer {exact : ℚ} {left right : Binary64}
    (sign : left.isNegative = right.isNegative) (isNumber : right.isNaN = false)
    (leftEven : left.significand % 2 = 0) (rightEven : right.significand % 2 = 0)
    (below : left.magnitudeCode < right.magnitudeCode)
    (tie : |left.toRat - exact| = |right.toRat - exact|) :
    ∃ middle : Binary64, middle.isNaN = false ∧
      |middle.toRat - exact| < |left.toRat - exact| := by
  rw [significand_mod_two] at leftEven rightEven
  have inRange := right.isNaN_eq_false_iff.mp isNumber
  have small : left.magnitudeCode + 1 < signPlace :=
    Nat.lt_of_le_of_lt (Nat.succ_le_of_lt below |>.trans inRange) infinityCode_lt_signPlace
  have word := magnitudeCode_ofCode left.isNegative small
  have middleSign := isNegative_ofCode left.isNegative small
  generalize ofCode left.isNegative (left.magnitudeCode + 1) = middle at word middleSign
  have lower : left.magnitude < middle.magnitude := magnitude_lt_of_code_lt (by omega)
  have upper : middle.magnitude < right.magnitude := magnitude_lt_of_code_lt (by omega)
  refine ⟨middle, middle.isNaN_eq_false_iff.mpr (by omega), ?_⟩
  simp only [toRat, middleSign, ← sign] at tie ⊢
  generalize left.isNegative = negative at tie ⊢
  cases negative with
  | false =>
      simp only [signed, Bool.false_eq_true, if_false] at tie ⊢
      exact abs_sub_lt_of_between lower upper tie
  | true =>
      simp only [signed, if_true] at tie ⊢
      rw [tie]
      exact abs_sub_lt_of_between (neg_lt_neg upper) (neg_lt_neg lower) tie.symm

theorem eq_of_code_eq {left right : Binary64} (sign : left.isNegative = right.isNegative)
    (code : left.magnitudeCode = right.magnitudeCode) : left = right := by
  rw [← left.ofCode_eq_self, sign, code, right.ofCode_eq_self]

/-- **Of each sign there is at most one nearest number.** -/
theorem IsNearest.unique {exact : ℚ} {left right : Binary64}
    (sign : left.isNegative = right.isNegative) (leftNearest : IsNearest exact left)
    (rightNearest : IsNearest exact right) : left = right := by
  have tie : |left.toRat - exact| = |right.toRat - exact| :=
    le_antisymm (leftNearest.least right rightNearest.isNumber)
      (rightNearest.least left leftNearest.isNumber)
  by_cases same : left.toRat = right.toRat
  · apply eq_of_code_eq sign
    apply code_eq_of_magnitude_eq
    have absolute := congrArg abs same
    rwa [toRat, toRat, abs_signed _ left.magnitude_nonneg,
      abs_signed _ right.magnitude_nonneg] at absolute
  · have leftEven := (leftNearest.even right rightNearest.isNumber tie.symm).resolve_left
      (Ne.symm same)
    have rightEven := (rightNearest.even left leftNearest.isNumber tie).resolve_left same
    rcases Nat.lt_trichotomy left.magnitudeCode right.magnitudeCode with below | equal | above
    · obtain ⟨middle, isNumber, nearer⟩ :=
        exists_nearer sign rightNearest.isNumber leftEven rightEven below tie
      exact absurd (leftNearest.least middle isNumber) (not_le.mpr nearer)
    · exact eq_of_code_eq sign equal
    · obtain ⟨middle, isNumber, nearer⟩ :=
        exists_nearer sign.symm leftNearest.isNumber rightEven leftEven above tie.symm
      exact absurd (rightNearest.least middle isNumber) (not_le.mpr nearer)

/-! ### Units in the last place -/

/-- A number is a multiple of a unit or lies below the binade of the unit. -/
theorem magnitude_grid (number : Binary64) (unit : ℤ) :
    (∃ steps : ℕ, number.magnitude = steps * 2 ^ unit) ∨
      (-(leastScale : ℤ) < unit ∧ number.magnitude < fractionPlace * 2 ^ unit) := by
  have two : (2 : ℚ) ≠ 0 := by norm_num
  rcases le_or_gt unit number.scale with fine | coarse
  · refine .inl ⟨number.significand * 2 ^ (number.scale - unit).toNat, ?_⟩
    have steps : ((number.scale - unit).toNat : ℤ) = number.scale - unit :=
      Int.toNat_of_nonneg (by omega)
    rw [magnitude, Nat.cast_mul, Nat.cast_pow, Nat.cast_ofNat, mul_assoc, ← zpow_natCast, steps,
      ← zpow_add₀ two, sub_add_cancel]
  · have lower := number.scale_eq
    refine .inr ⟨by omega, ?_⟩
    have small := number.magnitudeCode_eq.2.1
    calc number.magnitude = number.significand * 2 ^ number.scale := rfl
      _ < (2 * fractionPlace : ℕ) * 2 ^ number.scale := by gcongr
      _ = fractionPlace * 2 ^ (number.scale + 1) := by
          rw [zpow_add_one₀ two]
          push_cast
          ring
      _ ≤ fractionPlace * 2 ^ unit := by
          gcongr
          · norm_num
          · exact coarse

section Units

variable {exact : ℚ} {unit : ℤ} {rounded : ℕ}

theorem distance_eq (integer : ℚ) :
    |integer * 2 ^ unit - exact| = |integer - exact / 2 ^ unit| * 2 ^ unit := by
  have positive : (0 : ℚ) < 2 ^ unit := by positivity
  rw [← abs_of_pos positive, ← abs_mul, abs_of_pos positive, sub_mul,
    div_mul_cancel₀ _ positive.ne']

variable (rounds : Decimal.Rounds (exact / 2 ^ unit) rounded)
  (reached : unit = -(leastScale : ℤ) ∨ fractionPlace * 2 ^ unit ≤ exact)

include rounds

theorem distance_le (integer : ℤ) :
    |rounded * 2 ^ unit - exact| ≤ |(integer : ℚ) * 2 ^ unit - exact| := by
  rw [distance_eq, distance_eq]
  have nearest := rounds.nearest integer
  gcongr

include reached

/-- A number off the grid of the unit is farther away than the start of the binade. -/
theorem distance_lt_of_below {other : Binary64} (finer : -(leastScale : ℤ) < unit)
    (below : other.magnitude < fractionPlace * 2 ^ unit) :
    |rounded * 2 ^ unit - exact| < |other.magnitude - exact| := by
  have start := reached.resolve_left (by omega)
  have near := distance_le rounds (fractionPlace : ℤ)
  rw [Int.cast_natCast] at near
  rw [abs_of_nonpos (by linarith : (fractionPlace : ℚ) * 2 ^ unit - exact ≤ 0)] at near
  rw [abs_of_neg (by linarith : other.magnitude - exact < 0)]
  linarith

theorem least_of_rounds (other : Binary64) :
    |rounded * 2 ^ unit - exact| ≤ |other.magnitude - exact| := by
  rcases other.magnitude_grid unit with ⟨steps, onGrid⟩ | ⟨finer, below⟩
  · rw [onGrid]
    exact distance_le rounds (steps : ℤ)
  · exact (distance_lt_of_below rounds reached finer below).le

theorem even_of_rounds (other : Binary64)
    (tie : |other.magnitude - exact| = |rounded * 2 ^ unit - exact|) :
    other.magnitude = rounded * 2 ^ unit ∨ rounded % 2 = 0 := by
  rcases other.magnitude_grid unit with ⟨steps, onGrid⟩ | ⟨finer, below⟩
  · by_cases same : steps = rounded
    · exact .inl (by rw [onGrid, same])
    · have positive : (0 : ℚ) < 2 ^ unit := by positivity
      rw [onGrid, distance_eq, distance_eq, mul_left_inj' positive.ne'] at tie
      have differs : (steps : ℤ) ≠ rounded := by exact_mod_cast same
      exact .inr (rounds.even_of_tie differs (by exact_mod_cast tie))
  · exact absurd tie (distance_lt_of_below rounds reached finer below).ne'

/-- A number whose significand is a value rounded in its unit is nearest to the value. -/
theorem isNearest_of_rounds {number : Binary64} (isNumber : number.isNaN = false)
    (value : number.magnitude = rounded * 2 ^ unit)
    (parity : number.significand % 2 = rounded % 2) (nonneg : 0 ≤ exact) :
    IsNearest (signed number.isNegative exact) number := by
  apply isNearest_of_magnitude nonneg rfl isNumber
  · intro other _
    rw [value]
    exact least_of_rounds rounds reached other
  · intro other _ tie
    rw [value] at tie ⊢
    rw [parity]
    exact even_of_rounds rounds reached other tie

end Units

/-! ### Out of reach -/

theorem magnitude_of_infinityCode {number : Binary64}
    (word : number.magnitudeCode = infinityCode) : number.magnitude = 2 ^ (1024 : ℤ) := by
  have split : number.magnitudeCode = 2046 * fractionPlace + fractionPlace := word
  rw [magnitude_of_code split (by decide) (.inr (Nat.le_refl _)), cast_fractionPlace,
    ← zpow_add₀ (by norm_num : (2 : ℚ) ≠ 0)]
  norm_num [leastScale]

theorem magnitudeCode_infinity (negative : Bool) :
    (infinity negative).magnitudeCode = infinityCode :=
  magnitudeCode_ofCode negative infinityCode_lt_signPlace

theorem magnitude_le_of_isNumber {number : Binary64} (isNumber : number.isNaN = false) :
    number.magnitude ≤ 2 ^ (1024 : ℤ) := by
  rcases Nat.lt_or_eq_of_le (number.isNaN_eq_false_iff.mp isNumber) with below | same
  · rw [← magnitude_of_infinityCode (magnitudeCode_infinity false)]
    apply (magnitude_lt_of_code_lt _).le
    rwa [magnitudeCode_infinity]
  · exact (magnitude_of_infinityCode same).le

theorem isNearest_infinity (negative : Bool) {exact : ℚ} (large : 2 ^ (1024 : ℤ) ≤ exact) :
    IsNearest (signed negative exact) (infinity negative) := by
  have word := magnitudeCode_infinity negative
  have isNumber := (infinity negative).isNaN_eq_false_iff.mpr word.le
  have sign : (infinity negative).isNegative = negative :=
    isNegative_ofCode negative infinityCode_lt_signPlace
  have distance (other : Binary64) (otherNumber : other.isNaN = false) :
      |other.magnitude - exact| = exact - other.magnitude := by
    have below := magnitude_le_of_isNumber otherNumber
    rw [abs_of_nonpos (by linarith), neg_sub]
  apply isNearest_of_magnitude (le_trans (by positivity) large) sign isNumber
  · intro other otherNumber
    rw [distance _ isNumber, distance other otherNumber, magnitude_of_infinityCode word]
    linarith [magnitude_le_of_isNumber otherNumber]
  · intro other otherNumber tie
    rw [distance _ isNumber, distance other otherNumber] at tie
    exact .inl (by linarith)

theorem isNearest_zero (negative : Bool) {exact : ℚ} (nonneg : 0 ≤ exact)
    (small : exact < 2 ^ (-1075 : ℤ)) : IsNearest (signed negative exact) (zero negative) := by
  have sign : (zero negative).isNegative = negative := isNegative_ofCode negative (by decide)
  have rounds : Decimal.Rounds (exact / 2 ^ (-(leastScale : ℤ))) 0 := by
    have unitPositive : (0 : ℚ) < 2 ^ (-(leastScale : ℤ)) := by positivity
    have half : exact / 2 ^ (-(leastScale : ℤ)) < 1 / 2 := by
      rw [div_lt_iff₀ unitPositive]
      refine small.trans_eq ?_
      have step : (-1075 : ℤ) = -(leastScale : ℤ) - 1 := by decide
      rw [step, zpow_sub_one₀ (by norm_num)]
      ring
    have fraction : 0 ≤ exact / 2 ^ (-(leastScale : ℤ)) := by positivity
    refine ⟨?_, fun _ => rfl⟩
    rw [Nat.cast_zero, zero_sub, abs_neg, abs_of_nonneg fraction]
    exact half.le
  have value : (zero negative).magnitude = (0 : ℕ) * 2 ^ (-(leastScale : ℤ)) := by
    rw [magnitude_zero, Nat.cast_zero, zero_mul]
  have nearest := isNearest_of_rounds rounds (.inl rfl) (isNaN_zero negative) value
    (by rw [significand_mod_two, zero, magnitudeCode_ofCode negative (by decide)]) nonneg
  rwa [sign] at nearest

/-- The greatest finite number has the word before that of the infinity. -/
theorem exists_greatest : ∃ greatest : Binary64, greatest.isFinite = true ∧
    greatest.magnitude = 2 ^ (1024 : ℤ) - 2 * 2 ^ (970 : ℤ) ∧
    greatest.magnitudeCode + 1 = infinityCode := by
  have small : 2045 * fractionPlace + (2 * fractionPlace - 1) < signPlace := by decide
  have word := magnitudeCode_ofCode false small
  generalize ofCode false (2045 * fractionPlace + (2 * fractionPlace - 1)) = greatest at word
  refine ⟨greatest, greatest.isFinite_iff.mpr ?_, ?_, ?_⟩
  · rw [word]
    decide
  · have two : (2 : ℚ) ≠ 0 := by norm_num
    have places : ((2 * fractionPlace - 1 : ℕ) : ℚ) = 2 ^ (53 : ℤ) - 1 := by
      norm_num [fractionPlace]
    rw [magnitude_of_code word (by decide) (by decide), places, sub_mul, one_mul, ← zpow_add₀ two,
      ← zpow_one_add₀ two]
    norm_num [leastScale]
  · rw [word]
    decide

theorem magnitude_le_greatest {number greatest : Binary64} (finite : number.isFinite = true)
    (last : greatest.magnitudeCode + 1 = infinityCode) : number.magnitude ≤ greatest.magnitude := by
  have below := number.isFinite_iff.mp finite
  rcases Nat.lt_or_ge number.magnitudeCode greatest.magnitudeCode with less | more
  · exact (magnitude_lt_of_code_lt less).le
  · exact (magnitude_eq_of_code_eq (by omega)).le

section Overflow

variable {negative : Bool} {exact : ℚ} {number : Binary64}
  (nearest : IsNearest (signed negative exact) number) (sign : number.isNegative = negative)

include nearest sign

/-- A value from the middle on is at least as near to the infinity, which has the even significand. -/
theorem IsNearest.lt_of_isFinite (numberFinite : number.isFinite = true) :
    exact < 2 ^ (1024 : ℤ) - 2 ^ (970 : ℤ) := by
  obtain ⟨greatest, -, value, last⟩ := exists_greatest
  have atMost := magnitude_le_greatest numberFinite last
  have top := magnitude_of_infinityCode (magnitudeCode_infinity false)
  have isNumber := (infinity false).isNaN_eq_false_iff.mpr (magnitudeCode_infinity false).le
  have positive : (0 : ℚ) < 2 ^ (970 : ℤ) := by positivity
  generalize (2 : ℚ) ^ (1024 : ℤ) = limit at value top ⊢
  generalize (2 : ℚ) ^ (970 : ℤ) = half at value positive ⊢
  by_contra beyond
  have far := not_lt.mp beyond
  have least := nearest.magnitude_le sign isNumber
  rw [top, abs_of_nonpos (by linarith : number.magnitude - exact ≤ 0)] at least
  rcases le_total exact limit with inside | outside
  · rw [abs_of_nonneg (by linarith)] at least
    have same : number.magnitude = greatest.magnitude := by linarith
    have tie : |(infinity false).magnitude - exact| = |number.magnitude - exact| := by
      rw [top, abs_of_nonneg (by linarith), abs_of_nonpos (by linarith)]
      linarith
    have even := nearest.even_of_magnitude sign isNumber tie (by rw [top]; intro same; linarith)
    have odd : infinityCode % 2 = 0 := by decide
    rw [significand_mod_two, code_eq_of_magnitude_eq same] at even
    omega
  · rw [abs_of_nonpos (by linarith)] at least
    linarith

/-- A value below the middle is nearer to the greatest finite number than to the infinity. -/
theorem IsNearest.isFinite_of_lt (below : exact < 2 ^ (1024 : ℤ) - 2 ^ (970 : ℤ)) :
    number.isFinite = true := by
  by_contra notFinite
  obtain ⟨greatest, finite, value, -⟩ := exists_greatest
  have word : number.magnitudeCode = infinityCode := by
    have inRange := number.isNaN_eq_false_iff.mp nearest.isNumber
    have notBelow := mt number.isFinite_iff.mpr notFinite
    omega
  have least := nearest.magnitude_le sign (greatest.isNaN_eq_false_of_isFinite finite)
  have positive : (0 : ℚ) < 2 ^ (970 : ℤ) := by positivity
  rw [magnitude_of_infinityCode word, value] at least
  generalize (2 : ℚ) ^ (1024 : ℤ) = limit at below least
  generalize (2 : ℚ) ^ (970 : ℤ) = half at below least positive
  rw [abs_of_nonneg (by linarith)] at least
  rcases le_total exact (limit - 2 * half) with inside | outside
  · rw [abs_of_nonneg (by linarith)] at least
    linarith
  · rw [abs_of_nonpos (by linarith)] at least
    linarith

/-- **Where overflow begins**: the number nearest to a value is finite when the value is below the
middle between the greatest finite number and `2 ^ 1024`. -/
theorem IsNearest.isFinite_iff :
    number.isFinite = true ↔ exact < 2 ^ (1024 : ℤ) - 2 ^ (970 : ℤ) :=
  ⟨nearest.lt_of_isFinite sign, nearest.isFinite_of_lt sign⟩

end Overflow

theorem IsNearest.isFinite_of_le {negative : Bool} {exact : ℚ} {number : Binary64}
    (nearest : IsNearest (signed negative exact) number) (sign : number.isNegative = negative)
    (small : exact ≤ 2 ^ (1023 : ℤ)) : number.isFinite = true := by
  have double : (2 : ℚ) ^ (1024 : ℤ) = 2 * 2 ^ (1023 : ℤ) := zpow_one_add₀ (by norm_num) 1023
  have less : (2 : ℚ) ^ (970 : ℤ) < 2 ^ (1023 : ℤ) := zpow_lt_zpow_right₀ (by norm_num) (by norm_num)
  rw [nearest.isFinite_iff sign, double]
  generalize (2 : ℚ) ^ (1023 : ℤ) = half at small less ⊢
  linarith

/-! ### Fractions -/

/-- A value of some binade, rounded to the unit of that binade. -/
structure InUnits (exact : ℚ) (unit : ℤ) (rounded : ℕ) : Prop where
  rounds : Decimal.Rounds (exact / 2 ^ unit) rounded
  fine : -(leastScale : ℤ) ≤ unit
  reached : unit = -(leastScale : ℤ) ∨ fractionPlace * 2 ^ unit ≤ exact
  below : exact < (2 * fractionPlace : ℕ) * 2 ^ unit

/-- The word for a significand in a unit, or that of the infinity where it would be greater. -/
def unitCode (unit : ℤ) (rounded : ℕ) : ℕ :=
  min ((unit + leastScale).toNat * fractionPlace + rounded) infinityCode

theorem exists_inUnits {numerator denominator : ℕ} (numeratorPositive : 0 < numerator)
    (denominatorPositive : 0 < denominator) :
    ∃ unit rounded, InUnits (numerator / denominator) unit rounded ∧ ∀ negative,
      ofRatio negative numerator denominator = ofCode negative (unitCode unit rounded) := by
  obtain ⟨low, high⟩ := binaryExponent_bounds numeratorPositive denominatorPositive
  have two : (2 : ℚ) ≠ 0 := by norm_num
  refine ⟨max (binaryExponent numerator denominator - 52) (-(leastScale : ℤ)), _, ?_,
    fun negative => by rw [ofRatio, if_neg numeratorPositive.ne']; rfl⟩
  generalize binaryExponent numerator denominator = exponent at low high
  constructor
  case rounds =>
    rw [← Decimal.shift_ratio]
    apply Decimal.divideHalfEven_rounds
    rw [Nat.shiftLeft_eq]
    positivity
  case fine => exact le_max_right _ _
  case reached =>
    rcases le_or_gt (-(leastScale : ℤ)) (exponent - 52) with normal | subnormal
    · right
      rw [max_eq_left normal, cast_fractionPlace, ← zpow_add₀ two, add_sub_cancel]
      exact low
    · exact .inl (max_eq_right subnormal.le)
  case below =>
    have places : ((2 * fractionPlace : ℕ) : ℚ) = 2 ^ (53 : ℤ) := by norm_num [fractionPlace]
    rw [places, ← zpow_add₀ two]
    refine high.trans_le (zpow_le_zpow_right₀ (by norm_num) ?_)
    omega

namespace InUnits

variable {exact : ℚ} {unit : ℤ} {rounded : ℕ}

theorem rounded_le (inUnits : InUnits exact unit rounded) : rounded ≤ 2 * fractionPlace := by
  apply inUnits.rounds.ge_of_ge
  rw [div_le_iff₀ (by positivity)]
  exact inUnits.below.le

theorem normal (inUnits : InUnits exact unit rounded) :
    (unit + leastScale).toNat = 0 ∨ fractionPlace ≤ rounded := by
  rcases inUnits.reached with least | reached
  · exact .inl (by omega)
  · right
    apply inUnits.rounds.le_of_le
    rw [le_div_iff₀ (by positivity)]
    exact reached

/-- The word has the rounded value as long as it is not cut off at the infinity. -/
theorem magnitude_ofCode (inUnits : InUnits exact unit rounded) (negative : Bool)
    (inRange : (unit + leastScale).toNat * fractionPlace + rounded ≤ infinityCode) :
    (ofCode negative (unitCode unit rounded)).magnitude = rounded * 2 ^ unit := by
  have word : (ofCode negative (unitCode unit rounded)).magnitudeCode =
      (unit + leastScale).toNat * fractionPlace + rounded := by
    rw [unitCode, Nat.min_eq_left inRange]
    exact magnitudeCode_ofCode negative (Nat.lt_of_le_of_lt inRange infinityCode_lt_signPlace)
  rw [magnitude_of_code word inUnits.rounded_le inUnits.normal]
  have scale : (((unit + leastScale).toNat : ℕ) : ℤ) - leastScale = unit := by
    have fine := inUnits.fine
    omega
  rw [scale]

theorem isNearest (inUnits : InUnits exact unit rounded) (negative : Bool) (nonneg : 0 ≤ exact) :
    IsNearest (signed negative exact) (ofCode negative (unitCode unit rounded)) := by
  have small : unitCode unit rounded < signPlace :=
    Nat.lt_of_le_of_lt (Nat.min_le_right _ _) infinityCode_lt_signPlace
  have word := magnitudeCode_ofCode negative small
  have sign := isNegative_ofCode negative small
  by_cases inRange : (unit + leastScale).toNat * fractionPlace + rounded ≤ infinityCode
  · have value := inUnits.magnitude_ofCode negative inRange
    have isNumber : (ofCode negative (unitCode unit rounded)).isNaN = false := by
      rw [isNaN_eq_false_iff, word]
      exact Nat.min_le_right _ _
    have parity : (ofCode negative (unitCode unit rounded)).significand % 2 = rounded % 2 := by
      rw [significand_mod_two, word, unitCode, Nat.min_eq_left inRange]
      simp only [fractionPlace]
      omega
    have nearest := isNearest_of_rounds inUnits.rounds inUnits.reached isNumber value parity nonneg
    rwa [sign] at nearest
  · have cut : unitCode unit rounded = infinityCode := Nat.min_eq_right (by omega)
    rw [cut]
    apply isNearest_infinity
    have few := inUnits.rounded_le
    have scale : (972 : ℤ) ≤ unit := by
      simp only [fractionPlace, leastScale, infinityCode, specialField] at *
      omega
    have start := inUnits.reached.resolve_left (by rw [leastScale]; omega)
    rw [cast_fractionPlace, ← zpow_add₀ (by norm_num : (2 : ℚ) ≠ 0)] at start
    refine le_trans (zpow_le_zpow_right₀ (by norm_num) ?_) start
    omega

end InUnits

/-- **The number of a fraction is nearest to the fraction.** -/
theorem isNearest_ofRatio (negative : Bool) (numerator : ℕ) {denominator : ℕ}
    (positive : 0 < denominator) :
    IsNearest (signed negative (numerator / denominator)) (ofRatio negative numerator denominator) := by
  rcases Nat.eq_zero_or_pos numerator with rfl | numeratorPositive
  · rw [ofRatio, if_pos rfl, Nat.cast_zero, zero_div]
    exact isNearest_zero negative le_rfl (by positivity)
  · obtain ⟨unit, rounded, inUnits, spelled⟩ := exists_inUnits numeratorPositive positive
    rw [spelled]
    exact inUnits.isNearest negative (by positivity)

theorem isNegative_ofRatio (negative : Bool) (numerator denominator : ℕ) :
    (ofRatio negative numerator denominator).isNegative = negative := by
  unfold ofRatio
  split
  · exact isNegative_ofCode negative (by decide)
  · apply isNegative_ofCode
    exact Nat.lt_of_le_of_lt (Nat.min_le_right _ _) infinityCode_lt_signPlace

/-! ### Decimals -/

theorem power_toNat_div (exponent : ℤ) :
    ((Decimal.power exponent.toNat : ℕ) : ℚ) / (Decimal.power (-exponent).toNat : ℕ) =
      10 ^ exponent := by
  rw [Decimal.cast_power, Decimal.cast_power]
  obtain ⟨zeros, rfl | rfl⟩ := exponent.eq_nat_or_neg
  · have none : (-(zeros : ℤ)).toNat = 0 := by omega
    rw [none, Int.toNat_natCast, pow_zero, div_one, zpow_natCast]
  · have none : (-(zeros : ℤ)).toNat = 0 := by omega
    rw [neg_neg, none, Int.toNat_natCast, pow_zero, zpow_neg, zpow_natCast, one_div]

/-- The number of digits of a coefficient bounds a decimal from both sides. -/
theorem decimal_bounds {coefficient : ℕ} (positive : 0 < coefficient) (exponent : ℤ) :
    (10 : ℚ) ^ (exponent + Decimal.digitCount coefficient - 1) ≤ coefficient * 10 ^ exponent ∧
      (coefficient : ℚ) * 10 ^ exponent < 10 ^ (exponent + Decimal.digitCount coefficient) := by
  have ten : (10 : ℚ) ≠ 0 := by norm_num
  have low : (10 : ℚ) ^ Decimal.digitCount coefficient ≤ 10 * coefficient := by
    rw [← Decimal.cast_power]
    exact_mod_cast Decimal.power_digitCount_le positive
  have high : (coefficient : ℚ) < 10 ^ Decimal.digitCount coefficient := by
    rw [← Decimal.cast_power]
    exact_mod_cast Decimal.lt_power_digitCount coefficient
  have scale : (0 : ℚ) < 10 ^ exponent := by positivity
  rw [zpow_sub_one₀ ten, zpow_add₀ ten, zpow_natCast, mul_comm ((10 : ℚ) ^ exponent)]
  constructor
  · rw [mul_inv_le_iff₀ (by norm_num)]
    nlinarith
  · gcongr

theorem two_pow_le_ten_pow : (2 : ℚ) ^ (1024 : ℤ) ≤ 10 ^ (310 : ℤ) := by
  have whole : 2 ^ 1024 ≤ 10 ^ 310 := by decide +kernel
  exact_mod_cast whole

theorem ten_pow_lt_two_pow : (10 : ℚ) ^ (-330 : ℤ) < 2 ^ (-1075 : ℤ) := by
  have whole : 2 ^ 1075 < 10 ^ 330 := by decide +kernel
  rw [zpow_neg, zpow_neg]
  apply inv_strictAnti₀ (by positivity)
  exact_mod_cast whole

/-- **The number of a decimal is nearest to the decimal**, also where the exponent is out of reach. -/
theorem isNearest_ofDecimal (negative : Bool) (coefficient : ℕ) (exponent : ℤ) :
    IsNearest (signed negative (coefficient * 10 ^ exponent))
      (ofDecimal negative coefficient exponent) := by
  rcases Nat.eq_zero_or_pos coefficient with rfl | positive
  · rw [Nat.cast_zero, zero_mul]
    exact isNearest_zero negative le_rfl (by positivity)
  obtain ⟨low, high⟩ := decimal_bounds positive exponent
  simp only [ofDecimal, if_neg positive.ne']
  split_ifs with overflows underflows
  · apply isNearest_infinity
    calc (2 : ℚ) ^ (1024 : ℤ) ≤ 10 ^ (310 : ℤ) := two_pow_le_ten_pow
      _ ≤ 10 ^ (exponent + Decimal.digitCount coefficient - 1) := by
          apply zpow_le_zpow_right₀ (by norm_num)
          rw [overflowExponent] at overflows
          omega
      _ ≤ coefficient * 10 ^ exponent := low
  · apply isNearest_zero negative (by positivity)
    calc (coefficient : ℚ) * 10 ^ exponent
        < 10 ^ (exponent + Decimal.digitCount coefficient) := high
      _ ≤ 10 ^ (-330 : ℤ) := zpow_le_zpow_right₀ (by norm_num) underflows.le
      _ < 2 ^ (-1075 : ℤ) := ten_pow_lt_two_pow
  · have denominatorPositive : 0 < Decimal.power (-exponent).toNat := by
      rw [Decimal.power]
      exact Nat.pow_pos (by norm_num)
    have nearest := isNearest_ofRatio negative (coefficient * Decimal.power exponent.toNat)
      denominatorPositive
    rwa [Nat.cast_mul, mul_div_assoc, power_toNat_div] at nearest

theorem isNegative_ofDecimal (negative : Bool) (coefficient : ℕ) (exponent : ℤ) :
    (ofDecimal negative coefficient exponent).isNegative = negative := by
  simp only [ofDecimal]
  split_ifs
  · exact isNegative_ofCode negative (by decide)
  · exact isNegative_ofCode negative infinityCode_lt_signPlace
  · exact isNegative_ofCode negative (by decide)
  · exact isNegative_ofRatio negative _ _

end MetricIntake.Binary64
