import Mathlib.Algebra.Order.Field.Power
import Mathlib.Data.Rat.Cast.Order
import Mathlib.Data.Rat.Floor
import Mathlib.Tactic.FieldSimp
import Mathlib.Tactic.Linarith
import Mathlib.Tactic.NormNum
import Mathlib.Tactic.Positivity
import Mathlib.Tactic.Ring
import MetricIntake.Number.Binary64

/-!
Contract: fractions rounded to integers, and the binade of a fraction.

Owns:
- what it means that an integer is a fraction rounded, a half going to the even neighbour, and that
  this is one integer, the nearest;
- division rounded to the nearest integer;
- fractions shifted by a power of two, and the greatest power of two below a fraction.

Does not own: floating-point numbers.
-/

set_option autoImplicit false

namespace MetricIntake.Decimal

/-! ### Nearest integers -/

/-- An integer is a fraction rounded when it is at most a half away, and is even when it is just a
half away. -/
structure Rounds (exact : ℚ) (rounded : ℕ) : Prop where
  near : |(rounded : ℚ) - exact| ≤ 1 / 2
  even : |(rounded : ℚ) - exact| = 1 / 2 → rounded % 2 = 0

/-- A fraction is its whole part and what is left over. -/
theorem ratio_eq_quotient_add (numerator : ℕ) {denominator : ℕ} (positive : 0 < denominator) :
    (numerator : ℚ) / denominator =
      (numerator / denominator : ℕ) + ((numerator % denominator : ℕ) : ℚ) / denominator := by
  have castPositive : (0 : ℚ) < denominator := by exact_mod_cast positive
  have whole : (numerator : ℚ) = denominator * (numerator / denominator : ℕ) +
      (numerator % denominator : ℕ) := by
    exact_mod_cast (Nat.div_add_mod numerator denominator).symm
  have divided := congrArg (· / (denominator : ℚ)) whole
  simp only [add_div, mul_div_cancel_left₀ _ castPositive.ne'] at divided
  exact divided

theorem divideHalfEven_rounds (numerator : ℕ) {denominator : ℕ} (positive : 0 < denominator) :
    Rounds (numerator / denominator) (divideHalfEven numerator denominator) := by
  have castPositive : (0 : ℚ) < denominator := by exact_mod_cast positive
  have smaller := Nat.mod_lt numerator positive
  rw [ratio_eq_quotient_add numerator positive, divideHalfEven]
  generalize numerator / denominator = quotient
  generalize numerator % denominator = remainder at smaller
  have below : (remainder : ℚ) / denominator < 1 / 2 ↔ 2 * remainder < denominator := by
    rw [div_lt_div_iff₀ castPositive (by norm_num)]
    norm_cast
    omega
  have above : 1 / 2 < (remainder : ℚ) / denominator ↔ denominator < 2 * remainder := by
    rw [div_lt_div_iff₀ (by norm_num) castPositive]
    norm_cast
    omega
  have nonneg : 0 ≤ (remainder : ℚ) / denominator := by positivity
  have ltOne : (remainder : ℚ) / denominator < 1 := by
    rw [div_lt_one castPositive]
    exact_mod_cast smaller
  generalize (remainder : ℚ) / denominator = rest at below above nonneg ltOne
  by_cases less : 2 * remainder < denominator
  · have restLess := below.mpr less
    have distance : |(quotient : ℚ) - (quotient + rest)| = rest := by
      rw [sub_add_cancel_left, abs_neg, abs_of_nonneg nonneg]
    rw [if_pos less]
    exact ⟨by rw [distance]; exact restLess.le, fun half => absurd (distance.symm.trans half)
      restLess.ne⟩
  · rw [if_neg less]
    have notLess : 1 / 2 ≤ rest := not_lt.mp (mt below.mp less)
    by_cases more : denominator < 2 * remainder
    · have restMore := above.mpr more
      have distance : |((quotient + 1 : ℕ) : ℚ) - (quotient + rest)| = 1 - rest := by
        push_cast
        rw [add_sub_add_left_eq_sub, abs_of_nonneg (by linarith)]
      rw [if_pos more]
      constructor
      · rw [distance]
        linarith
      · rw [distance]
        intro half
        linarith
    · have restHalf : rest = 1 / 2 := le_antisymm (not_lt.mp (mt above.mp more)) notLess
      rw [if_neg more, restHalf]
      have evenNeighbour : (quotient + quotient % 2) % 2 = 0 := by omega
      refine ⟨?_, fun _ => evenNeighbour⟩
      rcases Nat.mod_two_eq_zero_or_one quotient with even | odd
      · rw [even]
        norm_num [abs_of_pos]
      · rw [odd]
        push_cast
        rw [add_sub_add_left_eq_sub]
        norm_num [abs_of_pos]

namespace Rounds

variable {exact : ℚ} {rounded : ℕ}

/-- Every other integer is at least as far away, and at least a half. -/
theorem half_le_of_ne (rounds : Rounds exact rounded) {integer : ℤ} (differs : integer ≠ rounded) :
    1 / 2 ≤ |(integer : ℚ) - exact| := by
  have apart : (1 : ℚ) ≤ |(integer : ℚ) - rounded| := by
    have whole : 1 ≤ |integer - (rounded : ℤ)| := Int.one_le_abs (sub_ne_zero.mpr differs)
    exact_mod_cast whole
  have triangle := abs_sub_le (integer : ℚ) exact rounded
  rw [abs_sub_comm exact] at triangle
  linarith [rounds.near]

theorem nearest (rounds : Rounds exact rounded) (integer : ℤ) :
    |(rounded : ℚ) - exact| ≤ |(integer : ℚ) - exact| := by
  by_cases same : integer = rounded
  · rw [same, Int.cast_natCast]
  · exact rounds.near.trans (rounds.half_le_of_ne same)

theorem even_of_tie (rounds : Rounds exact rounded) {integer : ℤ} (differs : integer ≠ rounded)
    (tie : |(integer : ℚ) - exact| = |(rounded : ℚ) - exact|) : rounded % 2 = 0 := by
  apply rounds.even
  apply le_antisymm rounds.near
  rw [← tie]
  exact rounds.half_le_of_ne differs

theorem eq_of_near (rounds : Rounds exact rounded) {integer : ℕ}
    (near : |(integer : ℚ) - exact| < 1 / 2) : rounded = integer := by
  by_contra differs
  have other : (integer : ℤ) ≠ rounded := by exact_mod_cast Ne.symm differs
  have far := rounds.half_le_of_ne other
  rw [Int.cast_natCast] at far
  linarith

theorem le_of_le (rounds : Rounds exact rounded) {bound : ℕ} (below : bound ≤ exact) :
    bound ≤ rounded := by
  have near := (abs_le.mp rounds.near).1
  by_contra less
  have oneLess : (rounded : ℚ) + 1 ≤ bound := by exact_mod_cast Nat.not_le.mp less
  linarith

theorem ge_of_ge (rounds : Rounds exact rounded) {bound : ℕ} (above : exact ≤ bound) :
    rounded ≤ bound := by
  have near := (abs_le.mp rounds.near).2
  by_contra more
  have oneMore : (bound : ℚ) + 1 ≤ rounded := by exact_mod_cast Nat.not_le.mp more
  linarith

/-- A fraction is rounded to at most an odd integer up to the half behind it, which goes beyond. -/
theorem le_iff_lt_half (rounds : Rounds exact rounded) {bound : ℕ} (odd : bound % 2 = 1) :
    rounded ≤ bound ↔ exact < bound + 1 / 2 := by
  obtain ⟨above, below⟩ := abs_le.mp rounds.near
  constructor
  · intro within
    have castWithin : (rounded : ℚ) ≤ bound := by exact_mod_cast within
    rcases lt_or_eq_of_le (show exact ≤ bound + 1 / 2 by linarith) with less | tie
    · exact less
    · -- The fraction is just between the bound and the integer behind it, and the bound is odd.
      have same : (rounded : ℚ) = bound := by linarith
      have even := rounds.even (by rw [same, tie, sub_add_cancel_left, abs_neg]; norm_num)
      have equal : rounded = bound := by exact_mod_cast same
      omega
  · intro less
    have castLess : (rounded : ℚ) < bound + 1 := by linarith
    exact Nat.le_of_lt_succ (by exact_mod_cast castLess)

/-- A value has one rounded integer. -/
theorem unique {other : ℕ} (rounds : Rounds exact rounded) (otherRounds : Rounds exact other) :
    rounded = other := by
  by_contra differs
  have otherDiffers : (other : ℤ) ≠ rounded := by exact_mod_cast Ne.symm differs
  have differsFromOther : (rounded : ℤ) ≠ other := by exact_mod_cast differs
  have otherFar := rounds.half_le_of_ne otherDiffers
  have far := otherRounds.half_le_of_ne differsFromOther
  rw [Int.cast_natCast] at otherFar far
  have half := le_antisymm rounds.near far
  have otherHalf := le_antisymm otherRounds.near otherFar
  -- Each is half a unit away, so they are neighbours; but both are even.
  have even := rounds.even half
  have otherEven := otherRounds.even otherHalf
  have apart := abs_sub_le (rounded : ℚ) exact other
  rw [abs_sub_comm exact, half, otherHalf] at apart
  have close : |(rounded : ℤ) - other| ≤ 1 := by
    have whole : |(rounded : ℚ) - other| ≤ 1 := by linarith
    exact_mod_cast whole
  rw [abs_le] at close
  omega

end Rounds

/-- **The rounded integer is the nearest one**: none is nearer, and where another is as near it is
even. -/
theorem rounds_iff_nearest {exact : ℚ} {rounded : ℕ} :
    Rounds exact rounded ↔
      (∀ integer : ℤ, |(rounded : ℚ) - exact| ≤ |(integer : ℚ) - exact|) ∧
      (∀ integer : ℤ, integer ≠ rounded →
        |(integer : ℚ) - exact| = |(rounded : ℚ) - exact| → rounded % 2 = 0) := by
  constructor
  · intro rounds
    exact ⟨rounds.nearest, fun integer differs tie => rounds.even_of_tie differs tie⟩
  · rintro ⟨least, even⟩
    constructor
    case near =>
      have near := abs_sub_round exact
      rw [abs_sub_comm] at near
      exact (least (round exact)).trans near
    case even =>
      intro half
      -- Half-way between two integers, the one on the other side is as near.
      rcases abs_cases ((rounded : ℚ) - exact) with ⟨above, -⟩ | ⟨below, -⟩
      · apply even (rounded - 1) (by omega)
        rw [half]
        push_cast
        rw [abs_of_nonpos (by linarith)]
        linarith
      · apply even (rounded + 1) (by omega)
        rw [half]
        push_cast
        rw [abs_of_nonneg (by linarith)]
        linarith

/-! ### Powers -/

theorem cast_power (zeros : ℕ) : ((power zeros : ℕ) : ℚ) = 10 ^ zeros :=
  Nat.cast_pow 10 zeros

/-- Shifting numerator or denominator divides by a power of two. -/
theorem shift_ratio (numerator denominator : ℕ) (exponent : ℤ) :
    ((numerator <<< (-exponent).toNat : ℕ) : ℚ) / (denominator <<< exponent.toNat : ℕ) =
      numerator / denominator / 2 ^ exponent := by
  obtain ⟨steps, rfl | rfl⟩ := exponent.eq_nat_or_neg
  · have none : (-(steps : ℤ)).toNat = 0 := by omega
    rw [none, Int.toNat_natCast, Nat.shiftLeft_eq, Nat.shiftLeft_eq, zpow_natCast, div_div]
    push_cast
    ring
  · have none : (-(steps : ℤ)).toNat = 0 := by omega
    rw [neg_neg, none, Int.toNat_natCast, Nat.shiftLeft_eq, Nat.shiftLeft_eq, zpow_neg, zpow_natCast,
      div_inv_eq_mul]
    push_cast
    ring

end MetricIntake.Decimal

namespace MetricIntake.Binary64

/-- A positive number lies between the power of two of its bit length and the one before. -/
theorem log2_bounds {number : ℕ} (positive : 0 < number) :
    (2 : ℚ) ^ (number.log2 : ℤ) ≤ number ∧ (number : ℚ) < 2 ^ ((number.log2 : ℤ) + 1) := by
  have below := Nat.log2_self_le positive.ne'
  have above : number < 2 ^ (number.log2 + 1) := Nat.lt_log2_self
  constructor
  · rw [zpow_natCast]
    exact_mod_cast below
  · have steps : (number.log2 : ℤ) + 1 = (number.log2 + 1 : ℕ) := by push_cast; rfl
    rw [steps, zpow_natCast]
    exact_mod_cast above

/-- **The binade of a positive fraction**: the greatest power of two that is not above it. -/
theorem binaryExponent_bounds {numerator denominator : ℕ} (numeratorPositive : 0 < numerator)
    (denominatorPositive : 0 < denominator) :
    (2 : ℚ) ^ binaryExponent numerator denominator ≤ numerator / denominator ∧
      (numerator : ℚ) / denominator < 2 ^ (binaryExponent numerator denominator + 1) := by
  obtain ⟨numeratorLow, numeratorHigh⟩ := log2_bounds numeratorPositive
  obtain ⟨denominatorLow, denominatorHigh⟩ := log2_bounds denominatorPositive
  have two : (2 : ℚ) ≠ 0 := by norm_num
  have positive : (0 : ℚ) < denominator := by exact_mod_cast denominatorPositive
  have shifted (exponent : ℤ) : denominator <<< exponent.toNat ≤ numerator <<< (-exponent).toNat ↔
      (2 : ℚ) ^ exponent ≤ numerator / denominator := by
    have scaled := Decimal.shift_ratio numerator denominator exponent
    have scaledPositive : (0 : ℚ) < (denominator <<< exponent.toNat : ℕ) := by
      rw [Nat.shiftLeft_eq]
      positivity
    rw [← one_le_div (by positivity : (0 : ℚ) < 2 ^ exponent), ← scaled, one_le_div scaledPositive]
    exact Nat.cast_le.symm
  have low : (2 : ℚ) ^ ((numerator.log2 : ℤ) - denominator.log2 - 1) ≤ numerator / denominator := by
    rw [le_div_iff₀ positive]
    calc (2 : ℚ) ^ ((numerator.log2 : ℤ) - denominator.log2 - 1) * denominator
        ≤ 2 ^ ((numerator.log2 : ℤ) - denominator.log2 - 1) * 2 ^ ((denominator.log2 : ℤ) + 1) := by
          gcongr
      _ = 2 ^ (numerator.log2 : ℤ) := by
          rw [← zpow_add₀ two]
          congr 1
          ring
      _ ≤ numerator := numeratorLow
  have high : (numerator : ℚ) / denominator < 2 ^ ((numerator.log2 : ℤ) - denominator.log2 + 1) := by
    rw [div_lt_iff₀ positive]
    calc (numerator : ℚ) < 2 ^ ((numerator.log2 : ℤ) + 1) := numeratorHigh
      _ = 2 ^ ((numerator.log2 : ℤ) - denominator.log2 + 1) * 2 ^ (denominator.log2 : ℤ) := by
          rw [← zpow_add₀ two]
          congr 1
          ring
      _ ≤ 2 ^ ((numerator.log2 : ℤ) - denominator.log2 + 1) * denominator := by
          gcongr
  simp only [binaryExponent]
  split
  · rename_i reached
    exact ⟨(shifted _).mp reached, high⟩
  · rename_i missed
    refine ⟨low, ?_⟩
    rw [sub_add_cancel]
    exact not_le.mp (mt (shifted _).mpr missed)

end MetricIntake.Binary64
