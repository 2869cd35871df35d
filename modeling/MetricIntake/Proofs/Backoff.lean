import Mathlib.Algebra.Group.Nat.Defs
import Mathlib.Data.List.Induction
import Mathlib.Logic.Function.Iterate
import MetricIntake.Backoff

/-!
Contract: how long the pauses of an accept loop are.

Owns:
- the normal form of two pauses;
- the pause after any number of failures, in closed form;
- the pause that an accept loop keeps after any sequence of attempts.

Does not own: the attempts, and the time that passes while a loop pauses.

## Why the longest span does not show

A pause doubles until it reaches the greatest one, but a double stops at the longest span there is,
which may come first. The greatest pause is a span itself. A double that was cut off is therefore
not below the greatest pause, and taking the smaller of both gives what it would give for the exact
double.
-/

set_option autoImplicit false

namespace MetricIntake

/-- The shorter and the longer one of two spans are these two spans. -/
theorem Span.shorter_longer_perm (left right : Span) :
    [left.shorter right, left.longer right].Perm [left, right] := by
  unfold shorter longer
  rcases Nat.le_total left.nanoseconds right.nanoseconds with le | le
  · rw [Nat.min_eq_left le, Nat.max_eq_right le]
  · rw [Nat.min_eq_right le, Nat.max_eq_left le]
    exact .swap _ _ _

namespace Backoff

/-! ### Normal form -/

/-- Both pauses are spans, which end at the longest one. -/
structure IsRepresentable (backoff : Backoff) : Prop where
  initial : backoff.initial.nanoseconds ≤ Span.longest.nanoseconds
  longest : backoff.longest.nanoseconds ≤ Span.longest.nanoseconds

/-- The first pause is at least a millisecond and not above the greatest. -/
structure IsNormal (backoff : Backoff) : Prop where
  floor : (Span.ofMilliseconds 1).nanoseconds ≤ backoff.initial.nanoseconds
  ordered : backoff.initial.nanoseconds ≤ backoff.longest.nanoseconds

theorem normalized_isNormal (backoff : Backoff) : backoff.normalized.IsNormal where
  floor := Nat.le_min.mpr ⟨Nat.le_max_right _ _, Nat.le_max_right _ _⟩
  ordered := Nat.le_trans (Nat.min_le_left _ _) (Nat.le_max_left _ _)

/-- The normal form has the two pauses, each raised to the shortest one. -/
theorem normalized_perm (backoff : Backoff) :
    [backoff.normalized.initial, backoff.normalized.longest].Perm
      [backoff.initial.longer shortest, backoff.longest.longer shortest] :=
  Span.shorter_longer_perm _ _

theorem IsNormal.normalized_eq {backoff : Backoff} (normal : backoff.IsNormal) :
    backoff.normalized = backoff := by
  have first : max backoff.initial.nanoseconds (Span.ofMilliseconds 1).nanoseconds =
      backoff.initial.nanoseconds := Nat.max_eq_left normal.floor
  have second : max backoff.longest.nanoseconds (Span.ofMilliseconds 1).nanoseconds =
      backoff.longest.nanoseconds := Nat.max_eq_left (Nat.le_trans normal.floor normal.ordered)
  simp only [normalized, shortest, Span.longer, Span.shorter, first, second,
    Nat.min_eq_left normal.ordered, Nat.max_eq_right normal.ordered]

theorem IsRepresentable.normalized {backoff : Backoff} (representable : backoff.IsRepresentable) :
    backoff.normalized.IsRepresentable := by
  have floor : (Span.ofMilliseconds 1).nanoseconds ≤ Span.longest.nanoseconds := by decide
  have first := Nat.max_le.mpr ⟨representable.initial, floor⟩
  have second := Nat.max_le.mpr ⟨representable.longest, floor⟩
  exact ⟨Nat.le_trans (Nat.min_le_left _ _) first, Nat.max_le.mpr ⟨first, second⟩⟩

/-! ### Pauses after failures -/

/-- The pause after some failures in a row: the first pause, and then each time the next one. -/
def pauseAfter (backoff : Backoff) (failures : Nat) : Span :=
  backoff.next^[failures] backoff.initial

theorem pauseAfter_succ (backoff : Backoff) (failures : Nat) :
    backoff.pauseAfter (failures + 1) = backoff.next (backoff.pauseAfter failures) :=
  Function.iterate_succ_apply' _ _ _

section Failures

variable {backoff : Backoff}

/-- The next pause is the exact double or the greatest one, whichever is smaller. -/
theorem next_nanoseconds (representable : backoff.IsRepresentable) (pause : Span) :
    (backoff.next pause).nanoseconds = min (2 * pause.nanoseconds) backoff.longest.nanoseconds := by
  show min (min (2 * pause.nanoseconds) Span.longest.nanoseconds) backoff.longest.nanoseconds = _
  rw [Nat.min_assoc, Nat.min_eq_right representable.longest]

/-- **The pause after some failures in closed form.** -/
theorem pauseAfter_nanoseconds (representable : backoff.IsRepresentable)
    (normal : backoff.IsNormal) (failures : Nat) :
    (backoff.pauseAfter failures).nanoseconds =
      min (backoff.initial.nanoseconds * 2 ^ failures) backoff.longest.nanoseconds := by
  induction failures with
  | zero =>
      rw [Nat.pow_zero, Nat.mul_one, Nat.min_eq_left normal.ordered]
      rfl
  | succ failures inductionHypothesis =>
      rw [pauseAfter_succ, next_nanoseconds representable, inductionHypothesis, Nat.pow_succ,
        ← Nat.mul_assoc]
      omega

/-- Pauses never get shorter. -/
theorem pauseAfter_mono (representable : backoff.IsRepresentable) (normal : backoff.IsNormal)
    {fewer more : Nat} (le : fewer ≤ more) :
    (backoff.pauseAfter fewer).nanoseconds ≤ (backoff.pauseAfter more).nanoseconds := by
  have grown := Nat.mul_le_mul_left backoff.initial.nanoseconds
    (Nat.pow_le_pow_right (show 0 < 2 by decide) le)
  rw [pauseAfter_nanoseconds representable normal, pauseAfter_nanoseconds representable normal]
  omega

theorem pauseAfter_le_longest (representable : backoff.IsRepresentable) (normal : backoff.IsNormal)
    (failures : Nat) :
    (backoff.pauseAfter failures).nanoseconds ≤ backoff.longest.nanoseconds := by
  rw [pauseAfter_nanoseconds representable normal]
  exact Nat.min_le_right _ _

/-- No pause is shorter than the first one, which is a millisecond or more. -/
theorem pauseAfter_pos (representable : backoff.IsRepresentable) (normal : backoff.IsNormal)
    (failures : Nat) : 0 < (backoff.pauseAfter failures).nanoseconds := by
  have first : 0 < backoff.initial.nanoseconds := Nat.lt_of_lt_of_le (by decide) normal.floor
  exact Nat.lt_of_lt_of_le first (pauseAfter_mono representable normal (Nat.zero_le failures))

/-- Seventy-four doublings take a millisecond beyond the longest span. -/
theorem longest_le_doubled (representable : backoff.IsRepresentable) (normal : backoff.IsNormal)
    {failures : Nat} (many : 74 ≤ failures) :
    backoff.longest.nanoseconds ≤ backoff.initial.nanoseconds * 2 ^ failures := by
  calc backoff.longest.nanoseconds
      ≤ Span.longest.nanoseconds := representable.longest
    _ ≤ (Span.ofMilliseconds 1).nanoseconds * 2 ^ 74 := by decide
    _ ≤ backoff.initial.nanoseconds * 2 ^ failures :=
        Nat.mul_le_mul normal.floor (Nat.pow_le_pow_right (by decide) many)

theorem pauseAfter_eq_longest (representable : backoff.IsRepresentable) (normal : backoff.IsNormal)
    {failures : Nat} (many : 74 ≤ failures) : backoff.pauseAfter failures = backoff.longest := by
  have reached := longest_le_doubled representable normal many
  apply congrArg Span.mk
  exact (pauseAfter_nanoseconds representable normal failures).trans (Nat.min_eq_right reached)

end Failures

/-- The pauses that are listed are those after one failure, after two, and so on. -/
theorem pauses_eq_map (backoff : Backoff) (count : Nat) (pause : Span) :
    backoff.pauses count pause =
      (List.range count).map fun index => backoff.next^[index + 1] pause := by
  induction count generalizing pause with
  | zero => rfl
  | succ count inductionHypothesis =>
      rw [pauses, inductionHypothesis, List.range_succ_eq_map, List.map_cons, List.map_map]
      rfl

/-! ### Pauses of a loop -/

/-- How many attempts failed since the last one that succeeded, or since the loop started. -/
def failuresSince (attempts : List Bool) : Nat :=
  (attempts.reverse.takeWhile (!·)).length

theorem failuresSince_concat (attempts : List Bool) (succeeded : Bool) :
    failuresSince (attempts ++ [succeeded]) =
      if succeeded then 0 else failuresSince attempts + 1 := by
  unfold failuresSince
  rw [List.reverse_concat, List.takeWhile_cons]
  cases succeeded <;> rfl

/-- What a loop keeps is the pause after the failures since the last success. -/
theorem afterAttempts_eq_pauseAfter (backoff : Backoff) (attempts : List Bool) :
    backoff.afterAttempts attempts = backoff.normalized.pauseAfter (failuresSince attempts) := by
  -- From the end, because the last attempt decides between the first pause and the next one.
  induction attempts using List.reverseRecOn with
  | nil => rfl
  | append_singleton attempts succeeded inductionHypothesis =>
      have last : backoff.afterAttempts (attempts ++ [succeeded]) =
          backoff.normalized.afterAttempt (backoff.afterAttempts attempts) succeeded :=
        List.foldl_append
      rw [last, failuresSince_concat, inductionHypothesis]
      cases succeeded with
      | true => rfl
      | false => exact (pauseAfter_succ _ _).symm

/-! ### Closed form -/

/-- What holds of the pauses of an accept loop. -/
structure Paces (backoff : Backoff) : Prop where
  normal : backoff.normalized.IsNormal
  /-- The normal form has the two pauses, each raised to the shortest one. -/
  raised : [backoff.normalized.initial, backoff.normalized.longest].Perm
    [backoff.initial.longer shortest, backoff.longest.longer shortest]
  idempotent : backoff.normalized.normalized = backoff.normalized
  /-- The pause after some failures is the first one, doubled as often, or the greatest one. -/
  doubles : ∀ failures, (backoff.normalized.pauseAfter failures).nanoseconds =
    min (backoff.normalized.initial.nanoseconds * 2 ^ failures)
      backoff.normalized.longest.nanoseconds
  /-- The pauses that are listed are those after one failure, after two, and so on. -/
  listed : ∀ count, backoff.normalized.pauses count backoff.normalized.initial =
    (List.range count).map fun index => backoff.normalized.pauseAfter (index + 1)
  /-- Pauses never get shorter. -/
  monotone : ∀ fewer more, fewer ≤ more → (backoff.normalized.pauseAfter fewer).nanoseconds ≤
    (backoff.normalized.pauseAfter more).nanoseconds
  /-- No pause is above the greatest one. -/
  bounded : ∀ failures, (backoff.normalized.pauseAfter failures).nanoseconds ≤
    backoff.normalized.longest.nanoseconds
  /-- No pause is nothing. -/
  positive : ∀ failures, 0 < (backoff.normalized.pauseAfter failures).nanoseconds
  /-- From the seventy-fourth failure on, if not earlier, all pauses are the greatest one. -/
  settles : ∀ failures, 74 ≤ failures →
    backoff.normalized.pauseAfter failures = backoff.normalized.longest
  /-- A loop keeps the pause after the failures since the last success. -/
  carried : ∀ attempts, (backoff.afterAttempts attempts).nanoseconds =
    min (backoff.normalized.initial.nanoseconds * 2 ^ failuresSince attempts)
      backoff.normalized.longest.nanoseconds

/-- **The pauses of an accept loop have a closed form**, whatever spans they are set to. The pause
after some failures in a row is the first pause of the normal form, doubled as often and in exact
nanoseconds, or the greatest pause if that is smaller. -/
theorem paces_of_isRepresentable {backoff : Backoff} (representable : backoff.IsRepresentable) :
    backoff.Paces := by
  have normal := normalized_isNormal backoff
  have kept := representable.normalized
  have closed := pauseAfter_nanoseconds kept normal
  constructor
  case normal => exact normal
  case raised => exact normalized_perm backoff
  case idempotent => exact normal.normalized_eq
  case doubles => exact closed
  case listed => exact fun count => pauses_eq_map _ count _
  case monotone => exact fun _ _ => pauseAfter_mono kept normal
  case bounded => exact pauseAfter_le_longest kept normal
  case positive => exact pauseAfter_pos kept normal
  case settles => exact fun _ => pauseAfter_eq_longest kept normal
  case carried =>
    intro attempts
    rw [afterAttempts_eq_pauseAfter]
    exact closed (failuresSince attempts)

/-- The longest span as the first pause, and no span as the greatest. A loop keeps four milliseconds
after a success and two failures, and the longest span from the seventy-fourth failure in a row. -/
theorem paces_of_isRepresentable_swapped :
    let backoff : Backoff := ⟨Span.longest, ⟨0⟩⟩
    backoff.IsRepresentable ∧
      (backoff.afterAttempts [false, true, false, false]).nanoseconds = 4000000 ∧
      (backoff.afterAttempts (List.replicate 73 false)).nanoseconds = 1000000 * 2 ^ 73 ∧
      backoff.normalized.pauseAfter 74 = Span.longest := by
  intro backoff
  have representable : backoff.IsRepresentable := ⟨by decide, by decide⟩
  have paces := paces_of_isRepresentable representable
  refine ⟨representable, ?_, ?_, paces.settles 74 (by decide)⟩
  · rw [paces.carried]
    decide
  · rw [paces.carried]
    decide

end Backoff

end MetricIntake
