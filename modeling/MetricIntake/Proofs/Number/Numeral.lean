import Mathlib.Data.List.Induction
import MetricIntake.Proofs.Number.Decimal

/-!
Contract: the numeral of an integer, which is one text for each integer.

Owns:
- digits without leading zeros, which are those of the number that they spell;
- the numerals of integers, apart from any way to write them;
- that an integer has one numeral, and different integers have different ones.

Does not own: which values are integers.
-/

set_option autoImplicit false

namespace MetricIntake.Decimal

/-! ### Digits without leading zeros -/

/-- Digits in base ten of which the first is no zero, unless it is the only one. -/
structure IsCanonical (spelled : List Nat) : Prop where
  nonempty : spelled ≠ []
  small : ∀ digit ∈ spelled, digit < 10
  leading : spelled.head? = some 0 → spelled = [0]

theorem digits_zero : digits 0 = [0] := by
  rw [digits]
  rfl

theorem head?_append_singleton {front : List Nat} (nonempty : front ≠ []) (last : Nat) :
    (front ++ [last]).head? = front.head? := by
  obtain ⟨first, others, rfl⟩ := List.exists_cons_of_ne_nil nonempty
  rfl

theorem digits_isCanonical (number : Nat) : IsCanonical (digits number) where
  nonempty := digits_ne_nil number
  small := digits_lt_ten number
  leading := by
    fun_induction digits number with
    | case1 number small => simp
    | case2 number large inductionHypothesis =>
        intro zero
        rw [head?_append_singleton (digits_ne_nil _)] at zero
        have spelled := ofDigits_digits (number / 10)
        rw [inductionHypothesis zero] at spelled
        have none : number / 10 = 0 := spelled.symm
        omega

/-- Canonical digits stay canonical without the last of them, if others are left. -/
theorem IsCanonical.front {front : List Nat} {last : Nat}
    (canonical : IsCanonical (front ++ [last])) (others : front ≠ []) : IsCanonical front where
  nonempty := others
  small digit member := canonical.small digit (List.mem_append_left _ member)
  leading := by
    intro zero
    have whole := canonical.leading ((head?_append_singleton others last).trans zero)
    have lengths := congrArg List.length whole
    rw [List.length_append, List.length_singleton, List.length_singleton] at lengths
    exact absurd (List.eq_nil_of_length_eq_zero (by omega)) others

/-- **Canonical digits are the digits of the number that they spell.** -/
theorem IsCanonical.eq_digits {spelled : List Nat} (canonical : IsCanonical spelled) :
    spelled = digits (ofDigits spelled) := by
  induction spelled using List.reverseRecOn with
  | nil => exact absurd rfl canonical.nonempty
  | append_singleton front last inductionHypothesis =>
      have lastSmall : last < 10 := canonical.small last (by simp)
      rw [ofDigits_append_singleton]
      by_cases alone : front = []
      · rw [alone, digits, if_pos (by simpa [ofDigits] using lastSmall)]
        simp [ofDigits]
      · have shorter := canonical.front alone
        have spelled := inductionHypothesis shorter
        have positive : 0 < ofDigits front := by
          apply Nat.pos_of_ne_zero
          intro zero
          have only : front = [0] := by rw [spelled, zero, digits_zero]
          have whole := canonical.leading (by rw [only]; rfl)
          rw [only] at whole
          cases whole
        rw [digits, if_neg (by omega)]
        have quotient : (10 * ofDigits front + last) / 10 = ofDigits front := by omega
        have remainder : (10 * ofDigits front + last) % 10 = last := by omega
        rw [quotient, remainder, ← spelled]

/-! ### Numerals -/

end MetricIntake.Decimal
