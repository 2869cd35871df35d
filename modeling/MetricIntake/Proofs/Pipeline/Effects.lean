import MetricIntake.Pipeline

/-!
Contract: what an outcome leaves behind in a pipeline.

Owns:
- the metric that an outcome passes on and the entry that it leaves in quarantine;
- the counters and the two logs after an outcome.

Does not own: which outcome an item has, nor the readings of an operator.
-/

set_option autoImplicit false

namespace MetricIntake

def ItemOutcome.rejection : ItemOutcome → Option Rejection
  | .invalid _ => none
  | .rejected line error => some ⟨error.key, line, .packet error⟩
  | .outOfOrder line key error => some ⟨key, line, .order error⟩
  | .dispatched _ => none

def ItemOutcome.metric : ItemOutcome → Option Metric
  | .dispatched metric => some metric
  | _ => none

namespace Pipeline

variable (pipeline : Pipeline) (outcome : ItemOutcome)

theorem record_items : (pipeline.record outcome).counters.items = pipeline.counters.items := by
  cases outcome <;> rfl

theorem record_frames : (pipeline.record outcome).counters.frames = pipeline.counters.frames := by
  cases outcome <;> rfl

theorem record_kinds :
    (pipeline.record outcome).counters.invalid + (pipeline.record outcome).counters.outOfOrder +
        (pipeline.record outcome).counters.dispatched =
      pipeline.counters.invalid + pipeline.counters.outOfOrder +
        pipeline.counters.dispatched + 1 := by
  cases outcome with
  | invalid error => simp only [record, countInvalid]; ac_rfl
  | rejected line error => simp only [record, countInvalid, quarantine]; ac_rfl
  | outOfOrder line key error => simp only [record, countOutOfOrder, quarantine]; ac_rfl
  | dispatched metric => simp only [record, countDispatched, dispatch]; ac_rfl

theorem record_dispatched :
    (pipeline.record outcome).counters.dispatched =
      pipeline.counters.dispatched + UInt64.ofNat outcome.metric.toList.length := by
  cases outcome <;> simp [record, countInvalid, countOutOfOrder, countDispatched, quarantine,
    dispatch, ItemOutcome.metric]

theorem record_outOfOrder {outcome : ItemOutcome}
    (timely : ∀ line key error, outcome ≠ .outOfOrder line key error) :
    (pipeline.record outcome).counters.outOfOrder = pipeline.counters.outOfOrder := by
  cases outcome with
  | outOfOrder line key error => exact absurd rfl (timely line key error)
  | _ => rfl

theorem record_metrics :
    (pipeline.record outcome).dispatched.toList =
      pipeline.dispatched.toList ++ outcome.metric.toList := by
  cases outcome <;> simp [record, countInvalid, countOutOfOrder, countDispatched, quarantine,
    dispatch, ItemOutcome.metric]

theorem record_quarantined :
    (pipeline.record outcome).quarantined.toList =
      pipeline.quarantined.toList ++ outcome.rejection.toList := by
  cases outcome <;> simp [record, countInvalid, countOutOfOrder, countDispatched, quarantine,
    dispatch, ItemOutcome.rejection]

end Pipeline

end MetricIntake
