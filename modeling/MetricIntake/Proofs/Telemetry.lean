import MetricIntake.Telemetry

/-!
Contract: what touching one instrument does to the readings.

Owns: the reading of any instrument after one was raised or lowered, which is a reading more or less
for the one and no change for the others.

Does not own: which instruments a pipeline touches.
-/

set_option autoImplicit false

namespace MetricIntake.Telemetry

theorem lookup_changeIn (touched seen : Instrument) (change : UInt64 → UInt64)
    (readings : List (Instrument × UInt64)) :
    ((changeIn touched change readings).lookup seen).getD 0 =
      if touched = seen then change ((readings.lookup seen).getD 0)
      else (readings.lookup seen).getD 0 := by
  induction readings with
  | nil =>
      by_cases same : touched = seen
      · subst same
        simp [changeIn]
      · have differs : (seen == touched) = false := by simpa using Ne.symm same
        simp [changeIn, List.lookup_cons, same, differs]
  | cons entry rest inductionHypothesis =>
      obtain ⟨head, value⟩ := entry
      by_cases found : head = touched
      · subst found
        rw [changeIn, if_pos rfl]
        by_cases same : head = seen
        · subst same
          simp
        · have differs : (seen == head) = false := by simpa using Ne.symm same
          simp [List.lookup_cons, same, differs]
      · rw [changeIn, if_neg found]
        by_cases first : seen = head
        · subst first
          simp [Ne.symm found]
        · have differs : (seen == head) = false := by simpa using first
          simpa [List.lookup_cons, differs] using inductionHypothesis

theorem reading_increment (telemetry : Telemetry) (touched seen : Instrument) :
    (telemetry.increment touched).reading seen =
      if touched = seen then telemetry.reading seen + 1 else telemetry.reading seen :=
  lookup_changeIn touched seen (· + 1) telemetry.readings

theorem reading_decrement (telemetry : Telemetry) (touched seen : Instrument) :
    (telemetry.decrement touched).reading seen =
      if touched = seen then telemetry.reading seen - 1 else telemetry.reading seen :=
  lookup_changeIn touched seen (· - 1) telemetry.readings

end MetricIntake.Telemetry
