import MetricIntake.Proofs.Connection
import MetricIntake.Proofs.Pipeline.Effects
import MetricIntake.Proofs.Pipeline.Judgement

/-!
Contract: a run of items is their outcomes, and nothing else.

Owns:
- the outcomes of some items, which depend on the marks before them and on nothing else;
- what outcomes add to the logs and to the counters of a pipeline;
- runs of items and of batches, which add the outcomes of their items.

Does not own: which outcomes items have.
-/

set_option autoImplicit false

namespace MetricIntake

def ItemOutcome.isInvalid : ItemOutcome → Bool
  | .invalid _ | .rejected _ _ => true
  | _ => false

theorem ItemOutcome.metric_eq_none {outcome : ItemOutcome} (invalid : outcome.isInvalid = true) :
    outcome.metric = none := by
  cases outcome with
  | dispatched metric => simp [isInvalid] at invalid
  | _ => rfl

/-- Whether an outcome is counted among those out of order. -/
def ItemOutcome.isOutOfOrder : ItemOutcome → Bool
  | .outOfOrder _ _ _ => true
  | _ => false

namespace Pipeline

/-- What the checks make of items one after the other, and the marks after them. -/
def judgeAll (config : Config) : Watermarks → List Value → List ItemOutcome × Watermarks
  | marks, [] => ([], marks)
  | marks, item :: rest =>
      let (outcome, advanced) := judge config marks item
      let (outcomes, last) := judgeAll config advanced rest
      (outcome :: outcomes, last)

theorem judgeAll_length (config : Config) (marks : Watermarks) (items : List Value) :
    (judgeAll config marks items).1.length = items.length := by
  induction items generalizing marks with
  | nil => rfl
  | cons item rest inductionHypothesis =>
      rw [judgeAll, List.length_cons, List.length_cons, inductionHypothesis]

/-- What some outcomes add to a pipeline. -/
structure Gains (before : Pipeline) (outcomes : List ItemOutcome) (after : Pipeline) : Prop where
  dispatched : after.dispatched.toList =
    before.dispatched.toList ++ outcomes.filterMap ItemOutcome.metric
  quarantined : after.quarantined.toList =
    before.quarantined.toList ++ outcomes.filterMap ItemOutcome.rejection
  itemCount : after.counters.items = before.counters.items + UInt64.ofNat outcomes.length
  invalidCount : after.counters.invalid =
    before.counters.invalid + UInt64.ofNat (outcomes.countP ItemOutcome.isInvalid)
  outOfOrderCount : after.counters.outOfOrder =
    before.counters.outOfOrder + UInt64.ofNat (outcomes.countP ItemOutcome.isOutOfOrder)
  dispatchedCount : after.counters.dispatched =
    before.counters.dispatched + UInt64.ofNat (outcomes.filterMap ItemOutcome.metric).length

namespace Gains

variable {before middle after : Pipeline} {front back : List ItemOutcome}

theorem refl (pipeline : Pipeline) : pipeline.Gains [] pipeline := by
  constructor <;> simp

theorem trans (first : before.Gains front middle) (second : middle.Gains back after) :
    before.Gains (front ++ back) after where
  dispatched := by
    rw [second.dispatched, first.dispatched, List.filterMap_append, List.append_assoc]
  quarantined := by
    rw [second.quarantined, first.quarantined, List.filterMap_append, List.append_assoc]
  itemCount := by
    rw [second.itemCount, first.itemCount, List.length_append, UInt64.ofNat_add,
      UInt64.add_assoc]
  invalidCount := by
    rw [second.invalidCount, first.invalidCount, List.countP_append, UInt64.ofNat_add,
      UInt64.add_assoc]
  outOfOrderCount := by
    rw [second.outOfOrderCount, first.outOfOrderCount, List.countP_append, UInt64.ofNat_add,
      UInt64.add_assoc]
  dispatchedCount := by
    rw [second.dispatchedCount, first.dispatchedCount, List.filterMap_append,
      List.length_append, UInt64.ofNat_add, UInt64.add_assoc]

end Gains

theorem processItem_gains (config : Config) (pipeline : Pipeline) (item : Value) :
    pipeline.Gains [(judge config pipeline.watermarks item).1]
      (processItem config pipeline item).2 := by
  rw [processItem_eq]
  generalize (judge config pipeline.watermarks item).1 = outcome
  have metrics (outcome : ItemOutcome) :
      [outcome].filterMap ItemOutcome.metric = outcome.metric.toList := by
    cases outcome <;> rfl
  have rejections (outcome : ItemOutcome) :
      [outcome].filterMap ItemOutcome.rejection = outcome.rejection.toList := by
    cases outcome <;> rfl
  constructor
  case dispatched =>
    rw [metrics]
    exact record_metrics pipeline.countItem outcome
  case quarantined =>
    rw [rejections]
    exact record_quarantined pipeline.countItem outcome
  case itemCount => exact record_items pipeline.countItem outcome
  case invalidCount =>
    cases outcome <;> simp [countItem, record, countInvalid, countOutOfOrder, countDispatched,
      quarantine, dispatch, ItemOutcome.isInvalid]
  case outOfOrderCount =>
    cases outcome <;> simp [countItem, record, countInvalid, countOutOfOrder, countDispatched,
      quarantine, dispatch, ItemOutcome.isOutOfOrder]
  case dispatchedCount =>
    rw [metrics]
    exact record_dispatched pipeline.countItem outcome

/-- **Items add their outcomes**, and move the marks as the checks do. -/
theorem processItems_gains (config : Config) (pipeline : Pipeline) (items : List Value) :
    pipeline.Gains (judgeAll config pipeline.watermarks items).1
        (processItems config pipeline items) ∧
      (processItems config pipeline items).watermarks =
        (judgeAll config pipeline.watermarks items).2 := by
  induction items generalizing pipeline with
  | nil => exact ⟨.refl pipeline, rfl⟩
  | cons item rest inductionHypothesis =>
      obtain ⟨gains, marks⟩ := inductionHypothesis (processItem config pipeline item).2
      exact ⟨(processItem_gains config pipeline item).trans gains, marks⟩

theorem countFrame_gains (pipeline : Pipeline) : pipeline.Gains [] pipeline.countFrame := by
  constructor <;> simp [countFrame]

theorem judgeAll_append (config : Config) (marks : Watermarks) (front back : List Value) :
    judgeAll config marks (front ++ back) =
      ((judgeAll config marks front).1 ++ (judgeAll config (judgeAll config marks front).2 back).1,
        (judgeAll config (judgeAll config marks front).2 back).2) := by
  induction front generalizing marks with
  | nil => rfl
  | cons item rest inductionHypothesis =>
      simp only [List.cons_append, judgeAll, inductionHypothesis]

/-- **Batches add the outcomes of their items**, whatever batch an item is in. -/
theorem processBatches_gains (config : Config) (pipeline : Pipeline)
    (batches : List (List Value)) :
    pipeline.Gains (judgeAll config pipeline.watermarks batches.flatten).1
        (pipeline.processBatches config batches) ∧
      (pipeline.processBatches config batches).watermarks =
        (judgeAll config pipeline.watermarks batches.flatten).2 := by
  induction batches generalizing pipeline with
  | nil => exact ⟨.refl pipeline, rfl⟩
  | cons items batches inductionHypothesis =>
      obtain ⟨gains, marks⟩ := processItems_gains config pipeline.countFrame items
      obtain ⟨laterGains, laterMarks⟩ :=
        inductionHypothesis (pipeline.processBatch config items)
      have untouched : pipeline.countFrame.watermarks = pipeline.watermarks := rfl
      have between : (pipeline.processBatch config items).watermarks =
          (judgeAll config pipeline.watermarks items).2 := marks
      rw [between] at laterGains laterMarks
      rw [List.flatten_cons, judgeAll_append]
      exact ⟨((countFrame_gains pipeline).trans gains).trans laterGains, laterMarks⟩

theorem processItems_frames (config : Config) (pipeline : Pipeline) (items : List Value) :
    (processItems config pipeline items).counters.frames = pipeline.counters.frames := by
  induction items generalizing pipeline with
  | nil => rfl
  | cons item items inductionHypothesis =>
      have kept : (processItem config pipeline item).2.counters.frames =
          pipeline.counters.frames := record_frames pipeline.countItem _
      exact (inductionHypothesis (processItem config pipeline item).2).trans kept

theorem processBatches_frames (config : Config) (pipeline : Pipeline)
    (batches : List (List Value)) :
    (pipeline.processBatches config batches).counters.frames =
      pipeline.counters.frames + UInt64.ofNat batches.length := by
  induction batches generalizing pipeline with
  | nil => exact (UInt64.add_zero _).symm
  | cons items batches inductionHypothesis =>
      have counted : (pipeline.processBatch config items).counters.frames =
          pipeline.counters.frames + 1 := processItems_frames config pipeline.countFrame items
      refine (inductionHypothesis (pipeline.processBatch config items)).trans ?_
      rw [counted, List.length_cons, UInt64.ofNat_add, UInt64.add_assoc, UInt64.add_comm 1]
      rfl

end Pipeline

end MetricIntake
