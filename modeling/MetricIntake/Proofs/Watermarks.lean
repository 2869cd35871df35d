import MetricIntake.Watermarks

/-!
Contract: a mark is moved for one key and no other.

Owns:
- the marks after one was set, for every key;
- which timestamps are accepted and which are refused.

Does not own: which timestamps are offered.
-/

set_option autoImplicit false

namespace MetricIntake.Watermarks

theorem last?_set_of_ne (marks : Watermarks) {key other : String} (differ : other ≠ key)
    (timestamp : UInt32) : (marks.set key timestamp).last? other = marks.last? other := by
  have unequal : (other == key) = false := by simpa using differ
  simp only [set, last?, List.lookup_cons, unequal]
  induction marks.entries with
  | nil => rfl
  | cons entry rest inductionHypothesis =>
      obtain ⟨head, mark⟩ := entry
      by_cases dropped : head = key
      · have passed : (other == head) = false := by
          rw [dropped]
          exact unequal
        have filtered : ((head, mark).1 != key) = false := by simpa using dropped
        rw [List.filter_cons_of_neg (by simp [filtered]), inductionHypothesis]
        simp only [List.lookup_cons, passed]
      · rw [List.filter_cons_of_pos (by simpa using dropped)]
        by_cases found : other = head
        · subst found
          simp
        · have passed : (other == head) = false := by simpa using found
          simp only [List.lookup_cons, passed, inductionHypothesis]

theorem last?_set (marks : Watermarks) (key other : String) (timestamp : UInt32) :
    (marks.set key timestamp).last? other =
      if other = key then some timestamp else marks.last? other := by
  by_cases same : other = key
  · rw [if_pos same, same, last?_set_self]
  · rw [if_neg same, last?_set_of_ne marks same]

theorem advance_eq_ok_iff {marks advanced : Watermarks} {key : String} {timestamp : UInt32} :
    marks.advance key timestamp = .ok advanced ↔
      (∀ last, marks.last? key = some last → last < timestamp) ∧
        advanced = marks.set key timestamp := by
  unfold advance
  cases found : marks.last? key with
  | none => simp [eq_comm]
  | some last =>
      by_cases later : last < timestamp
      · simp [later, eq_comm]
      · simp [later]

theorem advance_eq_error_iff {marks : Watermarks} {key : String} {timestamp : UInt32}
    {error : OutOfOrder} :
    marks.advance key timestamp = .error error ↔
      ∃ last, marks.last? key = some last ∧ timestamp ≤ last ∧ error = ⟨timestamp, last⟩ := by
  unfold advance
  cases found : marks.last? key with
  | none => simp
  | some last =>
      by_cases later : last < timestamp
      · simp [if_pos later, UInt32.not_le.mpr later]
      · simp [if_neg later, UInt32.not_lt.mp later, eq_comm]

end MetricIntake.Watermarks
