import MetricIntake.Proofs.Pickle.RoundTrip
import MetricIntake.Proofs.Pipeline.Run
import MetricIntake.Proofs.Telemetry

/-!
Contract: the books of a pipeline balance after every run.

Owns:
- the calls on a pipeline, and the steps that they come down to;
- an audit, which notes beside a pipeline what was taken up and what became of it;
- what it means for the books to balance, that every step preserves it, and that every run does.

Does not own: which outcome an item has.

## Why an audit

The counters alone cannot say what they should be. An audit therefore runs beside the pipeline and
only appends: each item with its outcome, and one for each batch. It never looks at a counter, at a
reading or at a log, and erasing it gives the run back. That the books balance is then a relation
between a pipeline and its audit which holds of a pipeline that has done nothing, and which either
kind of step preserves. A connection adds nothing: it is the batches that it takes up.
-/

set_option autoImplicit false

namespace MetricIntake

/-- The line of an item, if it is an observation. -/
def Observation.lineOf (item : Value) : Option Bytes :=
  match ofItem item with
  | .ok observation => some observation.line
  | .error _ => none

/-- Whether the readings of an operator are the counters of a pipeline. -/
structure Counters.IsShown (counters : Counters) (telemetry : Telemetry) : Prop where
  items : telemetry.reading .items = counters.items
  invalid : telemetry.reading .invalidItems = counters.invalid
  outOfOrder : telemetry.reading .outOfOrderItems = counters.outOfOrder
  dispatched : telemetry.reading .dispatchedItems = counters.dispatched
  frames : telemetry.reading .frames = counters.frames

namespace Counters.IsShown

variable {pipeline : Pipeline}

theorem countItem (shown : pipeline.counters.IsShown pipeline.telemetry) :
    pipeline.countItem.counters.IsShown pipeline.countItem.telemetry := by
  constructor <;> simp [Pipeline.countItem, Telemetry.reading_increment, shown.items,
    shown.invalid, shown.outOfOrder, shown.dispatched, shown.frames]

theorem countFrame (shown : pipeline.counters.IsShown pipeline.telemetry) :
    pipeline.countFrame.counters.IsShown pipeline.countFrame.telemetry := by
  constructor <;> simp [Pipeline.countFrame, Telemetry.reading_increment, shown.items,
    shown.invalid, shown.outOfOrder, shown.dispatched, shown.frames]

theorem record (shown : pipeline.counters.IsShown pipeline.telemetry) (outcome : ItemOutcome) :
    (pipeline.record outcome).counters.IsShown (pipeline.record outcome).telemetry := by
  cases outcome <;> constructor <;>
    simp [Pipeline.record, Pipeline.quarantine, Pipeline.dispatch, Pipeline.countInvalid,
      Pipeline.countOutOfOrder, Pipeline.countDispatched, Telemetry.reading_increment,
      shown.items, shown.invalid, shown.outOfOrder, shown.dispatched, shown.frames]

end Counters.IsShown

namespace Pipeline

/-! ### Calls and steps -/

/-- A call on a pipeline. -/
inductive Call where
  /-- One item. -/
  | item (taken : Value)
  /-- One batch. -/
  | batch (items : List Value)
  /-- One connection, with the decoder of its payloads. -/
  | connection (decoder : Decoder) (source : Frame.Source)

def Call.perform (config : Config) (pipeline : Pipeline) : Call → Pipeline
  | .item taken => (processItem config pipeline taken).2
  | .batch items => processBatch config pipeline items
  | .connection decoder source => (Connection.run config decoder pipeline source).2

/-- The pipeline after calls, one after the other. -/
def performAll (config : Config) (pipeline : Pipeline) (calls : List Call) : Pipeline :=
  calls.foldl (Call.perform config) pipeline

/-- The steps of a pipeline. -/
inductive Step where
  /-- A batch is counted. -/
  | batch
  /-- An item is taken up. -/
  | item (taken : Value)

def Step.perform (config : Config) (pipeline : Pipeline) : Step → Pipeline
  | .batch => pipeline.countFrame
  | .item taken => (processItem config pipeline taken).2

def Call.batches (limits : Frame.Limits) : Call → List (List Value)
  | .item _ => []
  | .batch items => [items]
  | .connection decoder source => Connection.batches limits decoder (.ofSource source)

/-- The items of a call, those of its batches among them. -/
def Call.items (limits : Frame.Limits) : Call → List Value
  | .item taken => [taken]
  | .batch items => items
  | .connection decoder source =>
      (Connection.batches limits decoder (.ofSource source)).flatten

def Step.ofBatch (items : List Value) : List Step := .batch :: items.map .item

def Call.steps (limits : Frame.Limits) : Call → List Step
  | .item taken => [.item taken]
  | .batch items => Step.ofBatch items
  | .connection decoder source =>
      (Connection.batches limits decoder (.ofSource source)).flatMap Step.ofBatch

theorem processBatch_eq_steps (config : Config) (pipeline : Pipeline) (items : List Value) :
    processBatch config pipeline items =
      (Step.ofBatch items).foldl (Step.perform config) pipeline := by
  rw [processBatch, processItems, Step.ofBatch, List.foldl_cons, List.foldl_map]
  rfl

theorem processBatches_eq_steps (config : Config) (pipeline : Pipeline)
    (batches : List (List Value)) :
    pipeline.processBatches config batches =
      (batches.flatMap Step.ofBatch).foldl (Step.perform config) pipeline := by
  induction batches generalizing pipeline with
  | nil => rfl
  | cons items batches inductionHypothesis =>
      rw [List.flatMap_cons, List.foldl_append, ← processBatch_eq_steps]
      exact inductionHypothesis (pipeline.processBatch config items)

theorem perform_eq_steps (config : Config) (pipeline : Pipeline) (call : Call) :
    call.perform config pipeline =
      (call.steps config.frameLimits).foldl (Step.perform config) pipeline := by
  cases call with
  | item taken => rfl
  | batch items => exact processBatch_eq_steps config pipeline items
  | connection decoder source =>
      rw [Call.perform, Connection.run_pipeline]
      exact processBatches_eq_steps config pipeline _

/-! ### What the checks say about an outcome -/

namespace Judged

variable {config : Config} {marks advanced : Watermarks} {item : Value} {outcome : ItemOutcome}

theorem lineOf_eq (judged : Judged config marks item (outcome, advanced)) :
    ∀ rejection ∈ outcome.rejection, Observation.lineOf item = some rejection.line := by
  intro rejection member
  cases judged with
  | invalid unobserved => simp [ItemOutcome.rejection] at member
  | rejected observed unread =>
      obtain rfl := Option.some.inj member
      rw [Observation.lineOf, observed]
  | outOfOrder observed read ordered late =>
      obtain rfl := Option.some.inj member
      rw [Observation.lineOf, observed]
  | dispatched observed read advances => simp [ItemOutcome.rejection] at member

theorem ne_outOfOrder (judged : Judged config marks item (outcome, advanced))
    (orderless : config.validateOrder = false) (line : Bytes) (key : String)
    (error : OutOfOrder) : outcome ≠ .outOfOrder line key error := by
  rintro rfl
  cases judged with
  | outOfOrder observed read ordered late => simp [orderless] at ordered

end Judged

/-! ### The audit -/

/-- A pipeline with what was noted beside it. -/
structure Audit where
  /-- The pipeline. -/
  pipeline : Pipeline
  /-- The items taken up, each with what became of it, the oldest first. -/
  outcomes : List (Value × ItemOutcome)
  /-- The number of batches. -/
  batches : Nat

namespace Audit

/-- The audit of a pipeline that has done nothing, with any marks. -/
def start (marks : Watermarks) : Audit := ⟨{ initial with watermarks := marks }, [], 0⟩

def note (config : Config) (audit : Audit) : Step → Audit
  | .batch =>
      { audit with pipeline := audit.pipeline.countFrame, batches := audit.batches + 1 }
  | .item taken =>
      { audit with
        pipeline := (processItem config audit.pipeline taken).2
        outcomes := audit.outcomes ++ [(taken, (processItem config audit.pipeline taken).1)] }

/-- Notes the steps of calls, one after the other. -/
def noteAll (config : Config) (audit : Audit) (calls : List Call) : Audit :=
  (calls.flatMap (Call.steps config.frameLimits)).foldl (note config) audit

def ofCalls (config : Config) (marks : Watermarks) (calls : List Call) : Audit :=
  (start marks).noteAll config calls

theorem note_pipeline (config : Config) (audit : Audit) (step : Step) :
    (audit.note config step).pipeline = step.perform config audit.pipeline := by
  cases step <;> rfl

theorem foldl_note_pipeline (config : Config) (audit : Audit) (steps : List Step) :
    (steps.foldl (note config) audit).pipeline =
      steps.foldl (Step.perform config) audit.pipeline := by
  induction steps generalizing audit with
  | nil => rfl
  | cons step steps inductionHypothesis =>
      rw [List.foldl_cons, List.foldl_cons, inductionHypothesis, note_pipeline]

/-- What every step preserves, every run does. -/
theorem foldl_note_preserves {config : Config} {holds : Audit → Prop}
    (preserves : ∀ audit step, holds audit → holds (audit.note config step))
    (steps : List Step) {audit : Audit} (before : holds audit) :
    holds (steps.foldl (note config) audit) := by
  induction steps generalizing audit with
  | nil => exact before
  | cons step steps inductionHypothesis =>
      exact inductionHypothesis (preserves audit step before)

theorem noteAll_pipeline (config : Config) (audit : Audit) (calls : List Call) :
    (audit.noteAll config calls).pipeline = performAll config audit.pipeline calls := by
  rw [noteAll, performAll, foldl_note_pipeline]
  generalize audit.pipeline = pipeline
  induction calls generalizing pipeline with
  | nil => rfl
  | cons call calls inductionHypothesis =>
      rw [List.flatMap_cons, List.foldl_append, List.foldl_cons, perform_eq_steps,
        inductionHypothesis]

theorem foldl_note_ofBatch (config : Config) (audit : Audit) (items : List Value) :
    ((Step.ofBatch items).foldl (note config) audit).batches = audit.batches + 1 ∧
      ((Step.ofBatch items).foldl (note config) audit).outcomes.map Prod.fst =
        audit.outcomes.map Prod.fst ++ items := by
  rw [Step.ofBatch, List.foldl_cons, List.foldl_map]
  have counted (start : Audit) :
      (items.foldl (fun state item => note config state (.item item)) start).batches =
          start.batches ∧
        (items.foldl (fun state item => note config state (.item item)) start).outcomes.map
          Prod.fst = start.outcomes.map Prod.fst ++ items := by
    induction items generalizing start with
    | nil => exact ⟨rfl, (List.append_nil _).symm⟩
    | cons item items inductionHypothesis =>
        obtain ⟨batches, taken⟩ := inductionHypothesis (note config start (.item item))
        refine ⟨batches, taken.trans ?_⟩
        simp [note]
  exact counted (note config audit .batch)

theorem foldl_note_batches (config : Config) (audit : Audit) (batches : List (List Value)) :
    ((batches.flatMap Step.ofBatch).foldl (note config) audit).batches =
        audit.batches + batches.length ∧
      ((batches.flatMap Step.ofBatch).foldl (note config) audit).outcomes.map Prod.fst =
        audit.outcomes.map Prod.fst ++ batches.flatten := by
  induction batches generalizing audit with
  | nil => exact ⟨rfl, (List.append_nil _).symm⟩
  | cons items batches inductionHypothesis =>
      obtain ⟨counted, taken⟩ := foldl_note_ofBatch config audit items
      obtain ⟨laterCounted, laterTaken⟩ :=
        inductionHypothesis ((Step.ofBatch items).foldl (note config) audit)
      rw [List.flatMap_cons, List.foldl_append, laterCounted, laterTaken, counted, taken]
      refine ⟨?_, ?_⟩
      · rw [List.length_cons]
        omega
      · rw [List.flatten_cons, List.append_assoc]

theorem noteAll_notes (config : Config) (audit : Audit) (calls : List Call) :
    (audit.noteAll config calls).batches =
        audit.batches + (calls.flatMap (Call.batches config.frameLimits)).length ∧
      (audit.noteAll config calls).outcomes.map Prod.fst =
        audit.outcomes.map Prod.fst ++ calls.flatMap (Call.items config.frameLimits) := by
  induction calls generalizing audit with
  | nil => exact ⟨rfl, (List.append_nil _).symm⟩
  | cons call calls inductionHypothesis =>
      have first : ((call.steps config.frameLimits).foldl (note config) audit).batches =
            audit.batches + (call.batches config.frameLimits).length ∧
          ((call.steps config.frameLimits).foldl (note config) audit).outcomes.map Prod.fst =
            audit.outcomes.map Prod.fst ++ call.items config.frameLimits := by
        cases call with
        | item taken => exact ⟨rfl, List.map_append⟩
        | batch items => exact foldl_note_ofBatch config audit items
        | connection decoder source => exact foldl_note_batches config audit _
      obtain ⟨counted, taken⟩ := inductionHypothesis
        ((call.steps config.frameLimits).foldl (note config) audit)
      have unfolded : audit.noteAll config (call :: calls) =
          ((call.steps config.frameLimits).foldl (note config) audit).noteAll config calls := by
        rw [noteAll, noteAll, List.flatMap_cons, List.foldl_append]
      rw [unfolded, counted, taken, first.1, first.2]
      refine ⟨?_, ?_⟩
      · rw [List.flatMap_cons, List.length_append]
        omega
      · rw [List.flatMap_cons, List.append_assoc]

/-! ### Balanced books -/

/-- The books of a pipeline balance with its audit. All sums are those of counters of 64 bits. -/
structure IsBalanced (config : Config) (audit : Audit) : Prop where
  /-- Each item is counted. -/
  items : audit.pipeline.counters.items = UInt64.ofNat audit.outcomes.length
  /-- Each item is counted once among the three kinds. -/
  kinds : audit.pipeline.counters.items =
    audit.pipeline.counters.invalid + audit.pipeline.counters.outOfOrder +
      audit.pipeline.counters.dispatched
  /-- Each metric that is passed on is counted. -/
  dispatched : audit.pipeline.counters.dispatched =
    UInt64.ofNat audit.pipeline.dispatched.size
  /-- The metrics passed on are those of the outcomes. -/
  metrics : audit.pipeline.dispatched.toList =
    audit.outcomes.filterMap fun entry => entry.2.metric
  /-- The entries in quarantine are those of the outcomes. -/
  quarantined : audit.pipeline.quarantined.toList =
    audit.outcomes.filterMap fun entry => entry.2.rejection
  /-- An entry in quarantine has the line of its item. -/
  lines : ∀ entry ∈ audit.outcomes, ∀ rejection ∈ entry.2.rejection,
    Observation.lineOf entry.1 = some rejection.line
  /-- Nothing comes too late where order does not matter. -/
  unordered : config.validateOrder = false → audit.pipeline.counters.outOfOrder = 0
  /-- Each batch is counted. -/
  frames : audit.pipeline.counters.frames = UInt64.ofNat audit.batches
  /-- An operator reads the counters. -/
  shown : audit.pipeline.counters.IsShown audit.pipeline.telemetry

theorem start_isBalanced (config : Config) (marks : Watermarks) :
    (start marks).IsBalanced config where
  items := rfl
  kinds := rfl
  dispatched := rfl
  metrics := rfl
  quarantined := rfl
  lines := by simp [start]
  unordered := fun _ => rfl
  frames := rfl
  shown := ⟨rfl, rfl, rfl, rfl, rfl⟩

theorem note_batch_isBalanced {config : Config} {audit : Audit}
    (balanced : audit.IsBalanced config) : (audit.note config .batch).IsBalanced config where
  items := balanced.items
  kinds := balanced.kinds
  dispatched := balanced.dispatched
  metrics := balanced.metrics
  quarantined := balanced.quarantined
  lines := balanced.lines
  unordered := balanced.unordered
  frames := by
    show audit.pipeline.counters.frames + 1 = UInt64.ofNat (audit.batches + 1)
    rw [balanced.frames, UInt64.ofNat_add]
    rfl
  shown := balanced.shown.countFrame

/-- Taking up an item keeps the books balanced, whatever becomes of it. -/
theorem note_item_isBalanced {config : Config} {audit : Audit} (item : Value)
    (balanced : audit.IsBalanced config) : (audit.note config (.item item)).IsBalanced config := by
  have judged := judge_judged config audit.pipeline.watermarks item
  rw [note, processItem_eq]
  generalize judge config audit.pipeline.watermarks item = judgement at judged
  obtain ⟨outcome, marks⟩ := judgement
  have counted : audit.pipeline.counters.items + 1 = UInt64.ofNat (audit.outcomes.length + 1) := by
    rw [balanced.items, UInt64.ofNat_add]
    rfl
  constructor
  case items =>
    rw [List.length_append]
    exact (record_items audit.pipeline.countItem outcome).trans counted
  case kinds =>
    refine (record_items audit.pipeline.countItem outcome).trans ?_
    refine Eq.trans ?_ (record_kinds audit.pipeline.countItem outcome).symm
    exact congrArg (· + 1) balanced.kinds
  case dispatched =>
    refine (record_dispatched audit.pipeline.countItem outcome).trans ?_
    rw [← Array.length_toList]
    show _ = UInt64.ofNat (audit.pipeline.countItem.record outcome).dispatched.toList.length
    rw [record_metrics, List.length_append, UInt64.ofNat_add]
    exact congrArg (· + _) balanced.dispatched
  case metrics =>
    rw [List.filterMap_append, ← balanced.metrics]
    exact record_metrics audit.pipeline.countItem outcome
  case quarantined =>
    rw [List.filterMap_append, ← balanced.quarantined]
    exact record_quarantined audit.pipeline.countItem outcome
  case lines =>
    intro entry member
    rcases List.mem_append.mp member with earlier | latest
    · exact balanced.lines entry earlier
    · rw [List.mem_singleton.mp latest]
      exact judged.lineOf_eq
  case unordered =>
    intro orderless
    refine (record_outOfOrder audit.pipeline.countItem ?_).trans (balanced.unordered orderless)
    exact judged.ne_outOfOrder orderless
  case frames => exact (record_frames audit.pipeline.countItem outcome).trans balanced.frames
  case shown => exact balanced.shown.countItem.record outcome

theorem note_isBalanced {config : Config} {audit : Audit} (step : Step)
    (balanced : audit.IsBalanced config) : (audit.note config step).IsBalanced config := by
  cases step with
  | batch => exact note_batch_isBalanced balanced
  | item taken => exact note_item_isBalanced taken balanced

theorem noteAll_isBalanced {config : Config} {audit : Audit} (calls : List Call)
    (balanced : audit.IsBalanced config) : (audit.noteAll config calls).IsBalanced config := by
  rw [noteAll]
  exact foldl_note_preserves (fun _ step => note_isBalanced step) _ balanced

end Audit

/-! ### The statistics of a connection -/

/-- What a connection that ends without error says that it took up is what the counters say. -/
theorem run_counters {config : Config} {decoder : Decoder} {pipeline after : Pipeline}
    {source : Frame.Source} {stats : ConnectionStats}
    (outcome : Connection.run config decoder pipeline source = (some (.finished stats), after)) :
    after.counters.frames = pipeline.counters.frames + stats.frames ∧
      after.counters.items = pipeline.counters.items + stats.items := by
  have taken : after = pipeline.processBatches config
      (Connection.batches config.frameLimits decoder (.ofSource source)) := by
    rw [← Connection.run_pipeline, outcome]
  have finished : stats = ConnectionStats.zero.addAll
      (Connection.batches config.frameLimits decoder (.ofSource source)) := by
    have ended : (Connection.advance config decoder pipeline (.ofSource source)).1 =
        .inl (.finished stats) := by
      rw [Connection.run] at outcome
      split at outcome <;> simp_all
    exact Connection.advance_stats ended
  obtain ⟨gains, -⟩ := processBatches_gains config pipeline
    (Connection.batches config.frameLimits decoder (.ofSource source))
  rw [finished, ConnectionStats.addAll_eq, taken]
  simp only [ConnectionStats.zero, UInt64.zero_add]
  constructor
  · exact processBatches_frames config pipeline _
  · rw [gains.itemCount, judgeAll_length]

/-- **The books of a pipeline balance after every run**: after any calls on a pipeline that has done
nothing, with any marks, the audit of these calls balances with it. A connection that comes next and
ends without error then says of itself what the counters say. -/
theorem performAll_accounts (config : Config) (marks : Watermarks) (calls : List Call) :
    (Audit.ofCalls config marks calls).pipeline =
        performAll config { initial with watermarks := marks } calls ∧
      (Audit.ofCalls config marks calls).outcomes.map Prod.fst =
        calls.flatMap (Call.items config.frameLimits) ∧
      (Audit.ofCalls config marks calls).batches =
        (calls.flatMap (Call.batches config.frameLimits)).length ∧
      (Audit.ofCalls config marks calls).IsBalanced config ∧
      ∀ decoder source stats after,
        Connection.run config decoder (Audit.ofCalls config marks calls).pipeline source =
            (some (.finished stats), after) →
          after.counters.frames =
              (Audit.ofCalls config marks calls).pipeline.counters.frames + stats.frames ∧
            after.counters.items =
              (Audit.ofCalls config marks calls).pipeline.counters.items + stats.items := by
  obtain ⟨batches, items⟩ := (Audit.start marks).noteAll_notes config calls
  refine ⟨?_, items, ?_, ?_, ?_⟩
  · exact Audit.noteAll_pipeline config (Audit.start marks) calls
  · exact batches.trans (Nat.zero_add _)
  · exact Audit.noteAll_isBalanced calls (Audit.start_isBalanced config marks)
  · intro decoder source stats after outcome
    exact run_counters outcome

/-- After an item and a batch of one, a connection on two frames, of two items and of none, finishes
with two frames and two items. The counters then say three frames and four items. -/
theorem performAll_accounts_batches :
    ∃ after,
      Connection.run Config.default .pickle
          (Audit.ofCalls Config.default .empty [.item .null, .batch [.null]]).pipeline
          ⟨Frame.encodeAll
            [[128, 2, 93, 40, 88, 1, 0, 0, 0, 97, 74, 5, 0, 0, 0, 74, 0, 0, 0, 0, 134, 134, 88, 1, 0,
              0, 0, 97, 74, 5, 0, 0, 0, 74, 1, 0, 0, 0, 134, 134, 101, 46], [128, 2, 93, 46]],
            [1, 6], .closed⟩ =
          (some (.finished ⟨2, 2⟩), after) ∧
        after.counters.frames = 3 ∧ after.counters.items = 4 := by
  have delivered : List.Forall₂ (Connection.Delivers Config.default .pickle)
      [[128, 2, 93, 40, 88, 1, 0, 0, 0, 97, 74, 5, 0, 0, 0, 74, 0, 0, 0, 0, 134, 134, 88, 1, 0, 0, 0,
        97, 74, 5, 0, 0, 0, 74, 1, 0, 0, 0, 134, 134, 101, 46], [128, 2, 93, 46]]
      [[.metricItem (.text "a") (.signed 5) (.signed 0),
        .metricItem (.text "a") (.signed 5) (.signed 1)], []] :=
    .cons ⟨⟨by decide, by decide, by decide⟩, @Pickle.batch_encode
        [.metricItem (.text "a") (.signed 5) (.signed 0),
          .metricItem (.text "a") (.signed 5) (.signed 1)] _ rfl rfl⟩
      (.cons ⟨⟨by decide, by decide, by decide⟩, @Pickle.batch_encode [] _ rfl rfl⟩ .nil)
  obtain ⟨-, items, batches, balanced, connections⟩ :=
    performAll_accounts Config.default .empty [.item .null, .batch [.null]]
  have ran := Connection.run_encodeAll delivered
    (Audit.ofCalls Config.default .empty [.item .null, .batch [.null]]).pipeline [1, 6]
  have frameCount := balanced.frames
  have itemCount := balanced.items
  rw [batches] at frameCount
  rw [← List.length_map Prod.fst, items] at itemCount
  refine ⟨_, ran, ?_, ?_⟩
  · rw [(connections _ _ _ _ ran).1, frameCount]
    rfl
  · rw [(connections _ _ _ _ ran).2, itemCount]
    rfl

end Pipeline

end MetricIntake
