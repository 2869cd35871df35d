/-!
Contract: chains of steps each of which may fail.

Owns: when a chain succeeds, and when it fails.

Does not own: any step.
-/

set_option autoImplicit false

namespace MetricIntake

/-- A chain succeeds when its first step does and the others succeed on what that step gave. -/
theorem bind_eq_ok_iff {ε α β : Type} {first : Except ε α} {others : α → Except ε β} {result : β} :
    first >>= others = .ok result ↔ ∃ given, first = .ok given ∧ others given = .ok result := by
  cases first with
  | error fault => simp [bind, Except.bind]
  | ok given => simp [bind, Except.bind]

/-- A chain fails when its first step does, or the others fail on what that step gave. -/
theorem bind_eq_error_iff {ε α β : Type} {first : Except ε α} {others : α → Except ε β}
    {fault : ε} :
    first >>= others = .error fault ↔
      first = .error fault ∨ ∃ given, first = .ok given ∧ others given = .error fault := by
  cases first with
  | error other => simp [bind, Except.bind]
  | ok given => simp [bind, Except.bind]

end MetricIntake
