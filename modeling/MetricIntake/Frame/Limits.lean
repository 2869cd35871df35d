import MetricIntake.Span

/-!
Contract: the limits that a frame reader keeps to.

Owns: the greatest payload, the size of one read and the time that a read may wait.

Does not own: how the limits are configured.
-/

namespace MetricIntake.Frame

/-- Limits of a frame reader. -/
structure Limits where
  maxLength : Nat
  chunkSize : Nat
  readTimeout : Option Span
deriving DecidableEq, Repr

/-- The size of one read that is in effect: a read asks for at least one byte. -/
def Limits.chunk (limits : Limits) : Nat := max limits.chunkSize 1

end MetricIntake.Frame
