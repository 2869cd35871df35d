import MetricIntake.Proofs.Pipeline.Accounting
import MetricIntake.Proofs.Watermarks

/-!
Contract: the marks of a pipeline tell its whole history.

Owns:
- the stamp of an item, which it has as soon as it passes validation;
- what marks have to do with the stamps validated and the stamps passed on, and that the checks
  preserve it for every item;
- what follows for a pipeline at every point of a run, and for the item that comes next.

Does not own: pipelines that start with marks, or do not check order.

## Two histories

The marks follow the items that are passed on. That they also bound the items that came too late is
not in any single check: it holds because such an item is not after the mark that it is compared
with. So the history of marks is kept twice, as the stamps that passed validation and as those of
them that were passed on, and each step is a step of both.
-/

set_option autoImplicit false

namespace MetricIntake

/-- The key of a packet and the timestamp that it has there. -/
structure Stamp where
  key : String
  timestamp : UInt32
deriving DecidableEq, Repr

namespace Stamp

/-- The stamp of an item that passes validation, whether it comes in time or not. -/
def ofItem? (policy : KeyPolicy) (item : Value) : Option Stamp :=
  match Observation.ofItem item with
  | .error _ => none
  | .ok observation =>
      match Packet.read policy observation.line with
      | .error _ => none
      | .ok packet => some ⟨packet.key, packet.timestamp⟩

/-- The timestamps of one key. -/
def times (key : String) (stamps : List Stamp) : List UInt32 :=
  (stamps.filter fun stamp => stamp.key = key).map Stamp.timestamp

theorem mem_times_iff {key : String} {stamps : List Stamp} {time : UInt32} :
    time ∈ times key stamps ↔ ⟨key, time⟩ ∈ stamps := by
  simp only [times, List.mem_map, List.mem_filter, decide_eq_true_eq]
  constructor
  · rintro ⟨stamp, ⟨member, rfl⟩, rfl⟩
    exact member
  · intro member
    exact ⟨⟨key, time⟩, ⟨member, rfl⟩, rfl⟩

theorem times_append_self (stamps : List Stamp) (stamp : Stamp) :
    times stamp.key (stamps ++ [stamp]) = times stamp.key stamps ++ [stamp.timestamp] := by
  simp [times]

theorem times_append_of_ne {key : String} (stamps : List Stamp) {stamp : Stamp}
    (differ : key ≠ stamp.key) : times key (stamps ++ [stamp]) = times key stamps := by
  simp [times, differ.symm]

end Stamp

namespace Pipeline

/-! ### Marks and the histories behind them -/

/-- Marks keep a history: the stamps validated, and those of them that were passed on. -/
structure Keeps (marks : Watermarks) (validated passed : List Stamp) : Prop where
  /-- Only what was validated was passed on, in the same order. -/
  sublist : passed.Sublist validated
  /-- A mark is the latest timestamp of its key that was passed on. -/
  latest : ∀ key, marks.last? key = (Stamp.times key passed).getLast?
  /-- A mark bounds everything validated for its key. -/
  bounds : ∀ key, ∀ time ∈ Stamp.times key validated,
    ∃ last, marks.last? key = some last ∧ time ≤ last
  /-- The timestamps passed on increase. -/
  increasing : ∀ key, (Stamp.times key passed).Pairwise (· < ·)

namespace Keeps

variable {marks : Watermarks} {validated passed : List Stamp} {stamp : Stamp}

theorem empty : Keeps .empty [] [] where
  sublist := .slnil
  latest := fun _ => rfl
  bounds := by simp [Stamp.times]
  increasing := by simp [Stamp.times]

theorem mem_validated (keeps : Keeps marks validated passed) {key : String} {last : UInt32}
    (found : marks.last? key = some last) : last ∈ Stamp.times key validated := by
  rw [keeps.latest] at found
  have member := List.mem_of_getLast? found
  rw [Stamp.mem_times_iff] at member ⊢
  exact keeps.sublist.subset member

/-- A key is marked when a stamp of it was passed on. -/
theorem isSome_iff (keeps : Keeps marks validated passed) (key : String) :
    (marks.last? key).isSome = true ↔ ∃ stamp ∈ passed, stamp.key = key := by
  rw [keeps.latest, List.getLast?_isSome]
  constructor
  · intro nonempty
    obtain ⟨time, member⟩ := List.exists_mem_of_ne_nil _ nonempty
    exact ⟨⟨key, time⟩, Stamp.mem_times_iff.mp member, rfl⟩
  · rintro ⟨stamp, member, rfl⟩
    exact List.ne_nil_of_mem (Stamp.mem_times_iff.mpr member)

/-- A mark is the greatest timestamp validated for its key, passed on or not. -/
theorem eq_some_iff (keeps : Keeps marks validated passed) (key : String) (last : UInt32) :
    marks.last? key = some last ↔
      last ∈ Stamp.times key validated ∧ ∀ time ∈ Stamp.times key validated, time ≤ last := by
  constructor
  · intro found
    refine ⟨keeps.mem_validated found, fun time member => ?_⟩
    obtain ⟨bound, boundFound, below⟩ := keeps.bounds key time member
    rw [found] at boundFound
    exact Option.some.inj boundFound ▸ below
  · rintro ⟨member, greatest⟩
    obtain ⟨bound, found, below⟩ := keeps.bounds key last member
    have above := greatest bound (keeps.mem_validated found)
    rw [found, UInt32.le_antisymm below above]

/-- A timestamp is after the mark of its key when it is after everything validated for it. -/
theorem isAfter_iff (keeps : Keeps marks validated passed) (key : String) (timestamp : UInt32) :
    (∀ last, marks.last? key = some last → last < timestamp) ↔
      ∀ time ∈ Stamp.times key validated, time < timestamp := by
  constructor
  · intro after time member
    obtain ⟨bound, found, below⟩ := keeps.bounds key time member
    exact UInt32.lt_of_le_of_lt below (after bound found)
  · intro after last found
    exact after last (keeps.mem_validated found)

/-- A stamp that comes too late is validated, and the marks stay. -/
theorem refuse (keeps : Keeps marks validated passed) {last : UInt32}
    (found : marks.last? stamp.key = some last) (late : stamp.timestamp ≤ last) :
    Keeps marks (validated ++ [stamp]) passed where
  sublist := keeps.sublist.trans (List.sublist_append_left _ _)
  latest := keeps.latest
  bounds := by
    intro key time member
    rcases List.mem_append.mp (Stamp.mem_times_iff.mp member) with earlier | latest
    · exact keeps.bounds key time (Stamp.mem_times_iff.mpr earlier)
    · rw [← List.mem_singleton.mp latest] at found late
      exact ⟨last, found, late⟩
  increasing := keeps.increasing

/-- A stamp that is after the mark of its key is passed on and moves the mark. -/
theorem accept (keeps : Keeps marks validated passed)
    (after : ∀ last, marks.last? stamp.key = some last → last < stamp.timestamp) :
    Keeps (marks.set stamp.key stamp.timestamp) (validated ++ [stamp]) (passed ++ [stamp]) where
  sublist := keeps.sublist.append (List.Sublist.refl _)
  latest := by
    intro key
    by_cases same : key = stamp.key
    · rw [same, Watermarks.last?_set_self, Stamp.times_append_self, List.getLast?_concat]
    · rw [Watermarks.last?_set_of_ne marks same, Stamp.times_append_of_ne passed same]
      exact keeps.latest key
  bounds := by
    intro key time member
    by_cases same : key = stamp.key
    · subst same
      refine ⟨stamp.timestamp, Watermarks.last?_set_self _ _ _, ?_⟩
      rw [Stamp.times_append_self] at member
      rcases List.mem_append.mp member with earlier | latest
      · exact UInt32.le_of_lt ((keeps.isAfter_iff _ _).mp after time earlier)
      · exact UInt32.le_of_eq (List.mem_singleton.mp latest)
    · rw [Stamp.times_append_of_ne validated same] at member
      rw [Watermarks.last?_set_of_ne marks same]
      exact keeps.bounds key time member
  increasing := by
    intro key
    by_cases same : key = stamp.key
    · subst same
      rw [Stamp.times_append_self, List.pairwise_append]
      refine ⟨keeps.increasing _, List.pairwise_singleton _ _, fun time member other latest => ?_⟩
      rw [List.mem_singleton.mp latest]
      -- The new timestamp is after all that were validated, and so after those passed on.
      have validatedToo := keeps.sublist.subset (Stamp.mem_times_iff.mp member)
      exact (keeps.isAfter_iff _ _).mp after time (Stamp.mem_times_iff.mpr validatedToo)
    · rw [Stamp.times_append_of_ne passed same]
      exact keeps.increasing key

end Keeps

/-! ### One item -/

/-- What the checks make of an item where order matters, by its stamp and the marks before it. -/
inductive Placed (marks : Watermarks) : Option Stamp → ItemOutcome × Watermarks → Prop where
  | unstamped {outcome : ItemOutcome} (invalid : outcome.isInvalid = true) :
      Placed marks none (outcome, marks)
  | late {stamp : Stamp} {last : UInt32} (line : Bytes)
      (found : marks.last? stamp.key = some last) (notAfter : stamp.timestamp ≤ last) :
      Placed marks (some stamp)
        (.outOfOrder line stamp.key ⟨stamp.timestamp, last⟩, marks)
  | after {stamp : Stamp} (line : Bytes) (value : Binary64)
      (after : ∀ last, marks.last? stamp.key = some last → last < stamp.timestamp) :
      Placed marks (some stamp)
        (.dispatched ⟨line, value, stamp.timestamp⟩, marks.set stamp.key stamp.timestamp)

theorem Judged.placed {config : Config} (ordered : config.validateOrder = true)
    {marks : Watermarks} {item : Value} {judgement : ItemOutcome × Watermarks}
    (judged : Judged config marks item judgement) :
    Placed marks (Stamp.ofItem? config.policy item) judgement := by
  unfold Stamp.ofItem?
  cases judged with
  | invalid unobserved =>
      rw [unobserved]
      exact .unstamped rfl
  | rejected observed unread =>
      simp only [observed, unread]
      exact .unstamped rfl
  | @outOfOrder observation packet error observed read _ late =>
      obtain ⟨last, found, notAfter, rfl⟩ := Watermarks.advance_eq_error_iff.mp late
      simp only [observed, read]
      exact .late observation.line found notAfter
  | @dispatched observation packet advanced observed read advances =>
      simp only [observed, read]
      rcases advances with ⟨-, accepted⟩ | ⟨orderless, -⟩
      · obtain ⟨after, rfl⟩ := Watermarks.advance_eq_ok_iff.mp accepted
        exact .after observation.line packet.value after
      · simp [ordered] at orderless

namespace Placed

variable {marks advanced : Watermarks} {stamp? : Option Stamp} {outcome : ItemOutcome}

/-- Every item, whatever becomes of it, takes marks that keep a history to marks that keep the
longer one. -/
theorem keeps {validated passed : List Stamp} (placed : Placed marks stamp? (outcome, advanced))
    (before : Keeps marks validated passed) :
    Keeps advanced (validated ++ stamp?.toList)
      (passed ++ (if outcome.metric.isSome then stamp? else none).toList) := by
  cases placed with
  | unstamped invalid => simpa using before
  | late line found notAfter => simpa [ItemOutcome.metric] using before.refuse found notAfter
  | after line value after => exact before.accept after

/-- What is passed on has the timestamp of its stamp. -/
theorem metric_timestamp (placed : Placed marks stamp? (outcome, advanced)) :
    outcome.metric.toList.map Metric.timestamp =
      (if outcome.metric.isSome then stamp? else none).toList.map Stamp.timestamp := by
  cases placed with
  | unstamped invalid =>
      rw [ItemOutcome.metric_eq_none invalid]
      rfl
  | late line found notAfter => rfl
  | after line value after => rfl

/-- Marks move only for an item that is passed on. -/
theorem advanced_eq (placed : Placed marks stamp? (outcome, advanced))
    (held : ∀ metric, outcome ≠ .dispatched metric) : advanced = marks := by
  cases placed with
  | unstamped invalid => rfl
  | late line found notAfter => rfl
  | after line value after => exact absurd rfl (held _)

theorem isInvalid_of_unstamped (placed : Placed marks none (outcome, advanced)) :
    outcome.isInvalid = true := by
  cases placed with
  | unstamped invalid => exact invalid

/-- A stamp that passes validation is passed on when it is after everything validated before. -/
theorem dispatched_iff {stamp : Stamp} {validated passed : List Stamp}
    (placed : Placed marks (some stamp) (outcome, advanced))
    (before : Keeps marks validated passed) :
    (∃ metric, outcome = .dispatched metric) ↔
      ∀ time ∈ Stamp.times stamp.key validated, time < stamp.timestamp := by
  rw [← before.isAfter_iff]
  cases placed with
  | late line found notAfter =>
      constructor
      · rintro ⟨metric, passedOn⟩
        cases passedOn
      · intro after
        exact absurd (after _ found) (UInt32.not_lt.mpr notAfter)
  | after line value after => exact ⟨fun _ => after, fun _ => ⟨_, rfl⟩⟩

theorem outOfOrder_of_held {stamp : Stamp}
    (placed : Placed marks (some stamp) (outcome, advanced))
    (held : ∀ metric, outcome ≠ .dispatched metric) :
    ∃ line last, marks.last? stamp.key = some last ∧
      outcome = .outOfOrder line stamp.key ⟨stamp.timestamp, last⟩ := by
  cases placed with
  | late line found notAfter => exact ⟨line, _, found, rfl⟩
  | after line value after => exact absurd rfl (held _)

end Placed

/-! ### Audits -/

namespace Audit

/-- The audit of a pipeline from here on. -/
def beside (pipeline : Pipeline) : Audit := ⟨pipeline, [], 0⟩

/-- The metrics passed on, the oldest first. -/
def metrics (audit : Audit) : List Metric :=
  audit.outcomes.filterMap fun entry => entry.2.metric

/-- The stamps of the items taken up that passed validation. -/
def validated (policy : KeyPolicy) (audit : Audit) : List Stamp :=
  audit.outcomes.filterMap fun entry => Stamp.ofItem? policy entry.1

/-- The stamps of the items that were passed on. -/
def passed (policy : KeyPolicy) (audit : Audit) : List Stamp :=
  audit.outcomes.filterMap fun entry =>
    if entry.2.metric.isSome then Stamp.ofItem? policy entry.1 else none

/-- The marks of a pipeline are those of its audit. -/
structure IsChronological (policy : KeyPolicy) (audit : Audit) : Prop where
  /-- A key is marked when an item with that key was passed on. -/
  known : ∀ key, (audit.pipeline.watermarks.last? key).isSome = true ↔
    ∃ stamp ∈ audit.passed policy, stamp.key = key
  /-- Its mark is the timestamp of the latest such item. -/
  latest : ∀ key, audit.pipeline.watermarks.last? key =
    (Stamp.times key (audit.passed policy)).getLast?
  /-- It is also the greatest timestamp validated for the key, passed on or not. -/
  greatest : ∀ key last, audit.pipeline.watermarks.last? key = some last ↔
    last ∈ Stamp.times key (audit.validated policy) ∧
      ∀ time ∈ Stamp.times key (audit.validated policy), time ≤ last
  /-- The timestamps passed on for a key increase. -/
  increasing : ∀ key, (Stamp.times key (audit.passed policy)).Pairwise (· < ·)
  /-- The timestamps passed on are those of the metrics. -/
  stamped : audit.metrics.map Metric.timestamp = (audit.passed policy).map Stamp.timestamp

/-- What becomes of an item that comes next. -/
structure Decides (config : Config) (audit : Audit) (item : Value) : Prop where
  /-- If it does not pass validation, it is reported as invalid or rejected. -/
  invalid : Stamp.ofItem? config.policy item = none →
    (processItem config audit.pipeline item).1.isInvalid = true
  /-- If it passes validation, it is passed on when it is after everything validated before for
  its key. -/
  dispatched_iff : ∀ stamp, Stamp.ofItem? config.policy item = some stamp →
    ((∃ metric, (processItem config audit.pipeline item).1 = .dispatched metric) ↔
      ∀ time ∈ Stamp.times stamp.key (audit.validated config.policy), time < stamp.timestamp)
  /-- Otherwise it is reported with the mark of its key. -/
  late : ∀ stamp, Stamp.ofItem? config.policy item = some stamp →
    (∀ metric, (processItem config audit.pipeline item).1 ≠ .dispatched metric) →
      ∃ line last, audit.pipeline.watermarks.last? stamp.key = some last ∧
        (processItem config audit.pipeline item).1 =
          .outOfOrder line stamp.key ⟨stamp.timestamp, last⟩
  /-- The marks move only for an item that is passed on. -/
  kept : (∀ metric, (processItem config audit.pipeline item).1 ≠ .dispatched metric) →
    (processItem config audit.pipeline item).2.watermarks = audit.pipeline.watermarks

/-- The marks and the log of a pipeline follow its audit. -/
structure Follows (policy : KeyPolicy) (start : List Metric) (audit : Audit) : Prop where
  keeps : Keeps audit.pipeline.watermarks (audit.validated policy) (audit.passed policy)
  log : audit.pipeline.dispatched.toList = start ++ audit.metrics
  stamped : audit.metrics.map Metric.timestamp = (audit.passed policy).map Stamp.timestamp

section Notes

variable (config : Config) (policy : KeyPolicy) (audit : Audit) (item : Value)

theorem note_item_metrics :
    (audit.note config (.item item)).metrics =
      audit.metrics ++ (processItem config audit.pipeline item).1.metric.toList := by
  simp only [note, metrics, List.filterMap_append]
  rfl

theorem note_item_validated :
    (audit.note config (.item item)).validated policy =
      audit.validated policy ++ (Stamp.ofItem? policy item).toList := by
  simp only [note, validated, List.filterMap_append]
  rfl

theorem note_item_passed :
    (audit.note config (.item item)).passed policy =
      audit.passed policy ++
        (if (processItem config audit.pipeline item).1.metric.isSome then
          Stamp.ofItem? policy item else none).toList := by
  simp only [note, passed, List.filterMap_append]
  rfl

end Notes

variable {config : Config} {start : List Metric} {audit : Audit}

theorem note_item_follows (ordered : config.validateOrder = true) (item : Value)
    (follows : audit.Follows config.policy start) :
    (audit.note config (.item item)).Follows config.policy start := by
  have placed := (judge_judged config audit.pipeline.watermarks item).placed ordered
  have added : (processItem config audit.pipeline item).2.dispatched.toList =
      audit.pipeline.dispatched.toList ++
        (processItem config audit.pipeline item).1.metric.toList :=
    (processItem_gains config audit.pipeline item).dispatched
  constructor
  case keeps =>
    rw [note_item_validated, note_item_passed]
    exact placed.keeps follows.keeps
  case log =>
    rw [note_item_metrics, ← List.append_assoc, ← follows.log]
    exact added
  case stamped =>
    rw [note_item_metrics, note_item_passed, List.map_append, List.map_append, follows.stamped]
    exact congrArg (_ ++ ·) placed.metric_timestamp

/-- Every step of a pipeline is a step of its history. Counting a batch adds nothing to it. -/
theorem note_follows (ordered : config.validateOrder = true) (step : Step)
    (follows : audit.Follows config.policy start) :
    (audit.note config step).Follows config.policy start := by
  cases step with
  | batch => exact ⟨follows.keeps, follows.log, follows.stamped⟩
  | item taken => exact note_item_follows ordered taken follows

theorem Follows.isChronological {policy : KeyPolicy} (follows : audit.Follows policy start) :
    audit.IsChronological policy where
  known := follows.keeps.isSome_iff
  latest := follows.keeps.latest
  greatest := follows.keeps.eq_some_iff
  increasing := follows.keeps.increasing
  stamped := follows.stamped

theorem Follows.decides (ordered : config.validateOrder = true)
    (follows : audit.Follows config.policy start) (item : Value) : audit.Decides config item := by
  have placed := (judge_judged config audit.pipeline.watermarks item).placed ordered
  constructor
  case invalid =>
    intro unstamped
    rw [unstamped] at placed
    exact placed.isInvalid_of_unstamped
  case dispatched_iff =>
    intro stamp valid
    rw [valid] at placed
    exact placed.dispatched_iff follows.keeps
  case late =>
    intro stamp valid held
    rw [valid] at placed
    exact placed.outOfOrder_of_held held
  case kept => exact placed.advanced_eq

end Audit

/-- **The marks of a pipeline tell its whole history, at every point of a run.** Whatever calls are
made on a pipeline that has no marks and checks order, and wherever among their steps one stops to
look: the marks are those of the history until then, they decide about the item that comes next,
and the run goes on from there. -/
theorem performAll_chronological {config : Config} (ordered : config.validateOrder = true)
    {pipeline : Pipeline} (fresh : pipeline.watermarks = .empty) (calls : List Call)
    {earlier later : List Step}
    (point : calls.flatMap (Call.steps config.frameLimits) = earlier ++ later) :
    let audit := earlier.foldl (Audit.note config) (.beside pipeline)
    performAll config pipeline calls = later.foldl (Step.perform config) audit.pipeline ∧
      audit.pipeline.dispatched.toList = pipeline.dispatched.toList ++ audit.metrics ∧
      audit.IsChronological config.policy ∧
      ∀ item, audit.Decides config item := by
  intro audit
  have begins : (Audit.beside pipeline).Follows config.policy pipeline.dispatched.toList := by
    refine ⟨?_, (List.append_nil _).symm, rfl⟩
    rw [Audit.beside, fresh]
    exact .empty
  have follows : audit.Follows config.policy pipeline.dispatched.toList :=
    Audit.foldl_note_preserves (fun _ step => Audit.note_follows ordered step) earlier begins
  refine ⟨?_, follows.log, follows.isChronological, follows.decides ordered⟩
  have noted := (Audit.beside pipeline).noteAll_pipeline config calls
  rw [Audit.noteAll, point, List.foldl_append, Audit.foldl_note_pipeline] at noted
  exact noted.symm

/-- After a metric of time 5 one of the same key and time 3 is refused, for the mark 5. -/
theorem performAll_chronological_refused :
    let config := { Config.default with validateOrder := true }
    let taken (time : Int64) := Value.metricItem (.text "a") (.signed time) (.text "1")
    let audit := [Step.item (taken 5)].foldl (Audit.note config) (.beside .initial)
    audit.pipeline.watermarks.last? "a" = some 5 ∧
      ∃ line, (processItem config audit.pipeline (taken 3)).1 = .outOfOrder line "a" ⟨3, 5⟩ := by
  intro config taken audit
  have ordered : config.validateOrder = true := rfl
  have point : [Call.item (taken 5), .item (taken 3)].flatMap (Call.steps config.frameLimits) =
      [.item (taken 5)] ++ [.item (taken 3)] := rfl
  obtain ⟨-, -, chronological, decides⟩ :=
    @performAll_chronological config ordered .initial rfl _ _ _ point
  have before : Stamp.times "a" (audit.validated config.policy) = [5] := by decide +kernel
  have valid : Stamp.ofItem? config.policy (taken 3) = some ⟨"a", 3⟩ := by decide +kernel
  have marked : audit.pipeline.watermarks.last? "a" = some 5 := by
    refine (chronological.greatest "a" 5).mpr ?_
    rw [before]
    exact ⟨List.mem_singleton_self 5, List.forall_mem_singleton.mpr (UInt32.le_refl 5)⟩
  have held (metric : Metric) :
      (processItem config audit.pipeline (taken 3)).1 ≠ .dispatched metric := by
    intro passedOn
    have after := ((decides (taken 3)).dispatched_iff _ valid).mp ⟨metric, passedOn⟩
    rw [before, List.forall_mem_singleton] at after
    exact absurd after (by decide)
  obtain ⟨line, last, found, refused⟩ := (decides (taken 3)).late _ valid held
  rw [marked] at found
  obtain rfl := Option.some.inj found
  exact ⟨marked, line, refused⟩

end Pipeline

end MetricIntake
