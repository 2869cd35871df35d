import Mathlib.Data.List.Forall2
import MetricIntake.Proofs.Pipeline.Chronology

/-!
Contract: what several senders of items make of one pipeline, in whatever order their items come.

Owns:
- what becomes of an item whatever was there before it: whether it is invalid, the line that it
  passes on, and all of it where order does not matter;
- the marks after some items, which are greatest timestamps;
- schedules, which put the items of named sequences into one order and keep the order of each;
- what two schedules of the same sequences have in common.

Does not own: schedules that interrupt an item.

## What the order of the items cannot change

Which of two items of one key comes in time depends on which comes first, and so do the log and the
number of items that came too late. Two things do not. Whether an item passes validation is a matter
of the item alone. And a mark only rises, to the greatest timestamp that was validated for its key,
because an item that comes too late is not after the mark. A maximum does not depend on an order.
-/

set_option autoImplicit false

namespace MetricIntake.Pipeline

/-! ### Outcomes, whatever the marks are -/

section Judgements

variable {config : Config} {marks advanced : Watermarks} {item : Value} {outcome : ItemOutcome}

/-- An item is invalid when it does not pass validation. -/
theorem Judged.isInvalid_eq (judged : Judged config marks item (outcome, advanced)) :
    outcome.isInvalid = (Stamp.ofItem? config.policy item).isNone := by
  unfold Stamp.ofItem?
  cases judged with
  | invalid unobserved => rw [unobserved]; rfl
  | rejected observed unread => simp only [observed, unread]; rfl
  | outOfOrder observed read ordered late => simp only [observed, read]; rfl
  | dispatched observed read advances => simp only [observed, read]; rfl

/-- What is passed on is the line of the item. -/
theorem Judged.line_of_metric (judged : Judged config marks item (outcome, advanced)) :
    ∀ metric ∈ outcome.metric, Observation.lineOf item = some metric.line := by
  intro metric member
  cases judged with
  | dispatched observed read advances =>
      obtain rfl := Option.some.inj member
      rw [Observation.lineOf, observed]
  | _ => simp [ItemOutcome.metric] at member

/-- Where order does not matter, an item has one outcome. -/
theorem judge_of_orderless (orderless : config.validateOrder = false) (marks other : Watermarks)
    (item : Value) : (judge config marks item).1 = (judge config other item).1 := by
  unfold judge
  cases Observation.ofItem item with
  | error error => rfl
  | ok observation =>
      simp only [orderless]
      cases Packet.read config.policy observation.line <;> rfl

end Judgements

/-- An outcome is what the checks make of an item at some time. -/
def IsOutcomeOf (config : Config) (item : Value) (outcome : ItemOutcome) : Prop :=
  ∃ marks, outcome = (judge config marks item).1

section Outcomes

variable {config : Config} {items : List Value} {outcomes : List ItemOutcome}

/-- The lines that are passed on are lines of the items, in their order. -/
theorem lines_sublist (aligned : List.Forall₂ (IsOutcomeOf config) items outcomes) :
    (outcomes.filterMap fun outcome => outcome.metric.map Metric.line).Sublist
      (items.filterMap Observation.lineOf) := by
  induction aligned with
  | nil => exact .slnil
  | @cons item outcome items outcomes first others inductionHypothesis =>
      obtain ⟨marks, rfl⟩ := first
      have lines := (judge_judged config marks item).line_of_metric
      cases passed : (judge config marks item).1.metric with
      | none =>
          rw [List.filterMap_cons_none (by rw [passed]; rfl)]
          exact inductionHypothesis.trans ((List.sublist_cons_self item items).filterMap _)
      | some metric =>
          rw [List.filterMap_cons_some (by rw [passed]; rfl),
            List.filterMap_cons_some (lines metric passed)]
          exact inductionHypothesis.cons_cons _

theorem countP_isInvalid (aligned : List.Forall₂ (IsOutcomeOf config) items outcomes) :
    outcomes.countP ItemOutcome.isInvalid =
      items.countP fun item => (Stamp.ofItem? config.policy item).isNone := by
  induction aligned with
  | nil => rfl
  | @cons item outcome items outcomes first others inductionHypothesis =>
      obtain ⟨marks, rfl⟩ := first
      have invalid : (judge config marks item).1.isInvalid = _ :=
        (judge_judged config marks item).isInvalid_eq
      rw [List.countP_cons, List.countP_cons, inductionHypothesis, invalid]

theorem outcomes_of_orderless (orderless : config.validateOrder = false)
    (aligned : List.Forall₂ (IsOutcomeOf config) items outcomes) :
    outcomes = items.map fun item => (judge config .empty item).1 := by
  induction aligned with
  | nil => rfl
  | @cons item outcome items outcomes first others inductionHypothesis =>
      obtain ⟨marks, rfl⟩ := first
      rw [List.map_cons, inductionHypothesis, judge_of_orderless orderless .empty marks]

/-- Each outcome is of one of three kinds. -/
theorem length_eq_kinds (outcomes : List ItemOutcome) :
    outcomes.length = outcomes.countP ItemOutcome.isInvalid +
      ((outcomes.filterMap ItemOutcome.metric).length +
        outcomes.countP ItemOutcome.isOutOfOrder) := by
  induction outcomes with
  | nil => rfl
  | cons outcome outcomes inductionHypothesis =>
      rw [List.length_cons, inductionHypothesis, List.countP_cons, List.countP_cons,
        List.filterMap_cons]
      cases outcome <;>
        simp only [ItemOutcome.metric, ItemOutcome.isInvalid, ItemOutcome.isOutOfOrder,
          List.length_cons, ite_true, Bool.false_eq_true, ite_false] <;> omega

end Outcomes

/-! ### Marks as greatest timestamps -/

/-- A mark is the greatest of the timestamps offered, and there is one as soon as one is offered. -/
structure IsGreatestOf (offered : UInt32 → Prop) (mark : Option UInt32) : Prop where
  reached : ∀ last, mark = some last → offered last
  bounds : ∀ time, offered time → ∃ last, mark = some last ∧ time ≤ last

namespace IsGreatestOf

variable {offered : UInt32 → Prop} {mark : Option UInt32}

theorem self (mark : Option UInt32) : IsGreatestOf (fun time => mark = some time) mark where
  reached := fun _ found => found
  bounds := fun time found => ⟨time, found, UInt32.le_refl time⟩

theorem eq_some {other : Option UInt32} {last : UInt32} (greatest : IsGreatestOf offered mark)
    (again : IsGreatestOf offered other) (found : mark = some last) : other = some last := by
  obtain ⟨above, otherFound, below⟩ := again.bounds last (greatest.reached last found)
  obtain ⟨bound, bounded, within⟩ := greatest.bounds above (again.reached above otherFound)
  obtain rfl : bound = last := Option.some.inj (bounded.symm.trans found)
  rw [otherFound, UInt32.le_antisymm within below]

theorem unique {other : Option UInt32} (greatest : IsGreatestOf offered mark)
    (again : IsGreatestOf offered other) : mark = other := by
  ext last
  exact ⟨greatest.eq_some again, again.eq_some greatest⟩

theorem congr {others : UInt32 → Prop} (greatest : IsGreatestOf offered mark)
    (same : ∀ time, offered time ↔ others time) : IsGreatestOf others mark where
  reached := fun last found => (same last).mp (greatest.reached last found)
  bounds := fun time offer => greatest.bounds time ((same time).mpr offer)

/-- A timestamp that is not after the mark leaves it the greatest. -/
theorem refuse {last timestamp : UInt32} (greatest : IsGreatestOf offered mark)
    (found : mark = some last) (late : timestamp ≤ last) :
    IsGreatestOf (fun time => offered time ∨ timestamp = time) mark where
  reached := fun last found => .inl (greatest.reached last found)
  bounds := by
    rintro time (earlier | rfl)
    · exact greatest.bounds time earlier
    · exact ⟨last, found, late⟩

/-- A timestamp that is after the mark, or the first one, is the greatest. -/
theorem accept {timestamp : UInt32} (greatest : IsGreatestOf offered mark)
    (after : ∀ last, mark = some last → last < timestamp) :
    IsGreatestOf (fun time => offered time ∨ timestamp = time) (some timestamp) where
  reached := fun last found => .inr (Option.some.inj found)
  bounds := by
    rintro time (earlier | rfl)
    · obtain ⟨last, found, below⟩ := greatest.bounds time earlier
      exact ⟨timestamp, rfl, UInt32.le_trans below (UInt32.le_of_lt (after last found))⟩
    · exact ⟨timestamp, rfl, UInt32.le_refl timestamp⟩

end IsGreatestOf

/-- One item offers the timestamp of its stamp to the mark of its key, whatever becomes of it. -/
theorem Placed.greatest {marks advanced : Watermarks} {stamp? : Option Stamp}
    {outcome : ItemOutcome} (placed : Placed marks stamp? (outcome, advanced)) {key : String}
    {offered : UInt32 → Prop} (greatest : IsGreatestOf offered (marks.last? key)) :
    IsGreatestOf (fun time => offered time ∨ stamp? = some ⟨key, time⟩) (advanced.last? key) := by
  cases placed with
  | unstamped invalid => exact greatest.congr (by simp)
  | @late stamp last line found notAfter =>
      obtain ⟨owner, timestamp⟩ := stamp
      by_cases own : owner = key
      · subst own
        exact (greatest.refuse found notAfter).congr (by simp)
      · exact greatest.congr (by simp [own])
  | @after stamp line value after =>
      obtain ⟨owner, timestamp⟩ := stamp
      by_cases own : owner = key
      · subst own
        rw [Watermarks.last?_set_self]
        exact (greatest.accept after).congr (by simp)
      · rw [Watermarks.last?_set_of_ne marks (Ne.symm own)]
        exact greatest.congr (by simp [own])

/-! ### Schedules -/

section Schedules

variable {Name : Type}

/-- Takes up the items of a schedule, one after the other, and notes their outcomes. -/
def processSchedule (config : Config) :
    Pipeline → List (Name × Value) → List (Name × ItemOutcome) × Pipeline
  | pipeline, [] => ([], pipeline)
  | pipeline, (name, item) :: rest =>
      let (outcome, next) := processItem config pipeline item
      let (outcomes, last) := processSchedule config next rest
      ((name, outcome) :: outcomes, last)

section Run

variable (config : Config) (pipeline : Pipeline) (schedule : List (Name × Value))

theorem processSchedule_outcomes :
    List.Forall₂ (fun entry noted => entry.1 = noted.1 ∧ IsOutcomeOf config entry.2 noted.2)
      schedule (processSchedule config pipeline schedule).1 := by
  induction schedule generalizing pipeline with
  | nil => exact .nil
  | cons entry schedule inductionHypothesis =>
      exact .cons ⟨rfl, pipeline.watermarks, rfl⟩
        (inductionHypothesis (processItem config pipeline entry.2).2)

theorem processSchedule_aligned :
    List.Forall₂ (IsOutcomeOf config) (schedule.map Prod.snd)
      ((processSchedule config pipeline schedule).1.map Prod.snd) := by
  rw [List.forall₂_map_left_iff, List.forall₂_map_right_iff]
  exact (processSchedule_outcomes config pipeline schedule).imp fun _ _ aligned => aligned.2

theorem processSchedule_gains :
    pipeline.Gains ((processSchedule config pipeline schedule).1.map Prod.snd)
      (processSchedule config pipeline schedule).2 := by
  induction schedule generalizing pipeline with
  | nil => exact .refl pipeline
  | cons entry schedule inductionHypothesis =>
      exact (processItem_gains config pipeline entry.2).trans
        (inductionHypothesis (processItem config pipeline entry.2).2)

/-- The items of a schedule offer their timestamps to the marks. -/
theorem processSchedule_greatest (ordered : config.validateOrder = true) (key : String)
    {offered : UInt32 → Prop} (greatest : IsGreatestOf offered (pipeline.watermarks.last? key)) :
    IsGreatestOf
      (fun time => offered time ∨
        ∃ entry ∈ schedule, Stamp.ofItem? config.policy entry.2 = some ⟨key, time⟩)
      ((processSchedule config pipeline schedule).2.watermarks.last? key) := by
  induction schedule generalizing pipeline offered with
  | nil => exact greatest.congr (by simp)
  | cons entry schedule inductionHypothesis =>
      have placed := (judge_judged config pipeline.watermarks entry.2).placed ordered
      have later := inductionHypothesis (processItem config pipeline entry.2).2
        (placed.greatest greatest)
      refine later.congr fun time => ?_
      rw [List.exists_mem_cons_iff, or_assoc]

end Run

variable [DecidableEq Name]

/-- What belongs to one name, in the order of the whole. -/
def entriesOf {α : Type} (name : Name) (entries : List (Name × α)) : List α :=
  entries.filterMap fun entry => if entry.1 = name then some entry.2 else none

/-- A schedule has the items of every sequence in the order of the sequence, and no others. -/
def Interleaves (sequences : Name → List Value) (schedule : List (Name × Value)) : Prop :=
  ∀ name, entriesOf name schedule = sequences name

section Entries

variable {α β : Type} {name : Name}

theorem entriesOf_cons_self (value : α) (entries : List (Name × α)) :
    entriesOf name ((name, value) :: entries) = value :: entriesOf name entries := by
  simp [entriesOf]

theorem entriesOf_cons_of_ne {other : Name} (differ : other ≠ name) (value : α)
    (entries : List (Name × α)) :
    entriesOf name ((other, value) :: entries) = entriesOf name entries := by
  simp [entriesOf, differ]

theorem mem_entriesOf {value : α} {entries : List (Name × α)} :
    value ∈ entriesOf name entries ↔ (name, value) ∈ entries := by
  simp [entriesOf, Prod.exists]

/-- A relation between the entries of two lists with the same names holds name by name. -/
theorem entriesOf_forall₂ {relation : α → β → Prop} {left : List (Name × α)}
    {right : List (Name × β)}
    (related : List.Forall₂ (fun one other => one.1 = other.1 ∧ relation one.2 other.2) left right)
    (name : Name) : List.Forall₂ relation (entriesOf name left) (entriesOf name right) := by
  induction related with
  | nil => exact .nil
  | @cons one other left right first others inductionHypothesis =>
      obtain ⟨owner, value⟩ := one
      obtain ⟨otherOwner, otherValue⟩ := other
      obtain ⟨rfl, holds⟩ : owner = otherOwner ∧ relation value otherValue := first
      by_cases own : owner = name
      · subst own
        rw [entriesOf_cons_self, entriesOf_cons_self]
        exact .cons holds inductionHypothesis
      · rw [entriesOf_cons_of_ne own, entriesOf_cons_of_ne own]
        exact inductionHypothesis

open Classical in
theorem count_entriesOf (name : Name) (value : α) (entries : List (Name × α)) :
    entries.count (name, value) = (entriesOf name entries).count value := by
  induction entries with
  | nil => rfl
  | cons entry entries inductionHypothesis =>
      obtain ⟨owner, held⟩ := entry
      by_cases own : owner = name
      · subst own
        rw [entriesOf_cons_self, List.count_cons, List.count_cons, inductionHypothesis]
        simp
      · rw [entriesOf_cons_of_ne own, List.count_cons_of_ne, inductionHypothesis]
        simp [own]

end Entries

/-- Two schedules of the same sequences have the same entries, in another order. -/
theorem Interleaves.perm {sequences : Name → List Value} {first second : List (Name × Value)}
    (interleaves : Interleaves sequences first) (again : Interleaves sequences second) :
    first.Perm second := by
  classical
  rw [List.perm_iff_count]
  rintro ⟨name, item⟩
  rw [count_entriesOf, count_entriesOf, interleaves name, again name]

/-- A timestamp is offered to the mark of a key when it is that mark to begin with, or when an item
of a sequence has it and passes validation. -/
def Offered (policy : KeyPolicy) (marks : Watermarks) (sequences : Name → List Value)
    (key : String) (time : UInt32) : Prop :=
  marks.last? key = some time ∨
    ∃ name, ∃ item ∈ sequences name, Stamp.ofItem? policy item = some ⟨key, time⟩

section Two

variable {config : Config} {pipeline : Pipeline} {sequences : Name → List Value}
  {first second : List (Name × Value)}

omit [DecidableEq Name] in
/-- The counts of a schedule do not depend on the order of its entries, those of the items that came
in time and of those that came too late being taken together. -/
theorem processSchedule_counts (config : Config) (pipeline : Pipeline)
    (permuted : first.Perm second) :
    (processSchedule config pipeline first).2.counters.items =
        (processSchedule config pipeline second).2.counters.items ∧
      (processSchedule config pipeline first).2.counters.invalid =
        (processSchedule config pipeline second).2.counters.invalid ∧
      (processSchedule config pipeline first).2.counters.dispatched +
          (processSchedule config pipeline first).2.counters.outOfOrder =
        (processSchedule config pipeline second).2.counters.dispatched +
          (processSchedule config pipeline second).2.counters.outOfOrder := by
  have gains := processSchedule_gains config pipeline first
  have otherGains := processSchedule_gains config pipeline second
  have aligned := processSchedule_aligned config pipeline first
  have otherAligned := processSchedule_aligned config pipeline second
  generalize (processSchedule config pipeline first).1.map Prod.snd = outcomes at gains aligned
  generalize (processSchedule config pipeline second).1.map Prod.snd = others
    at otherGains otherAligned
  have items := permuted.map Prod.snd
  have taken : outcomes.length = others.length := by
    rw [← aligned.length_eq, ← otherAligned.length_eq, items.length_eq]
  have invalid : outcomes.countP ItemOutcome.isInvalid = others.countP ItemOutcome.isInvalid := by
    rw [countP_isInvalid aligned, countP_isInvalid otherAligned, items.countP_eq]
  have valid : (outcomes.filterMap ItemOutcome.metric).length +
        outcomes.countP ItemOutcome.isOutOfOrder =
      (others.filterMap ItemOutcome.metric).length + others.countP ItemOutcome.isOutOfOrder := by
    have kinds := length_eq_kinds outcomes
    have otherKinds := length_eq_kinds others
    omega
  have together {after : Pipeline} {noted : List ItemOutcome} (gains : pipeline.Gains noted after) :
      after.counters.dispatched + after.counters.outOfOrder =
        pipeline.counters.dispatched + pipeline.counters.outOfOrder + UInt64.ofNat
          ((noted.filterMap ItemOutcome.metric).length +
            noted.countP ItemOutcome.isOutOfOrder) := by
    rw [gains.dispatchedCount, gains.outOfOrderCount, UInt64.ofNat_add]
    ac_rfl
  refine ⟨?_, ?_, ?_⟩
  · rw [gains.itemCount, otherGains.itemCount, taken]
  · rw [gains.invalidCount, otherGains.invalidCount, invalid]
  · rw [together gains, together otherGains, valid]

/-- Where order does not matter, every item of every sequence has the same outcome in any schedule,
and the same metrics are passed on. -/
theorem Interleaves.orderless (interleaves : Interleaves sequences first)
    (again : Interleaves sequences second) (orderless : config.validateOrder = false)
    (pipeline : Pipeline) :
    (∀ name, entriesOf name (processSchedule config pipeline first).1 =
        entriesOf name (processSchedule config pipeline second).1) ∧
      (processSchedule config pipeline first).2.dispatched.toList.Perm
        (processSchedule config pipeline second).2.dispatched.toList := by
  constructor
  · intro name
    have aligned := entriesOf_forall₂ (processSchedule_outcomes config pipeline first) name
    have otherAligned := entriesOf_forall₂ (processSchedule_outcomes config pipeline second) name
    rw [outcomes_of_orderless orderless aligned, outcomes_of_orderless orderless otherAligned,
      interleaves name, again name]
  · have outcomes := outcomes_of_orderless orderless (processSchedule_aligned config pipeline first)
    have others := outcomes_of_orderless orderless (processSchedule_aligned config pipeline second)
    rw [(processSchedule_gains config pipeline first).dispatched,
      (processSchedule_gains config pipeline second).dispatched, outcomes, others]
    exact ((((interleaves.perm again).map _).map _).filterMap _).append_left _

/-- Where order matters, the marks after any schedule are the greatest timestamps offered. -/
theorem Interleaves.greatest (interleaves : Interleaves sequences first)
    (ordered : config.validateOrder = true) (pipeline : Pipeline) (key : String) :
    IsGreatestOf (Offered config.policy pipeline.watermarks sequences key)
      ((processSchedule config pipeline first).2.watermarks.last? key) := by
  refine (processSchedule_greatest config pipeline first ordered key (.self _)).congr fun time => ?_
  refine or_congr_right ⟨?_, ?_⟩
  · rintro ⟨⟨name, item⟩, member, valid⟩
    refine ⟨name, item, ?_, valid⟩
    rw [← interleaves name]
    exact mem_entriesOf.mpr member
  · rintro ⟨name, item, member, valid⟩
    rw [← interleaves name] at member
    exact ⟨(name, item), mem_entriesOf.mp member, valid⟩

/-- **What the order of the items cannot change.** Several sequences of items are taken up in two
ways, each of which keeps the order of every sequence. Either way the log grows by the metrics of the
outcomes, and the lines passed on for a sequence are lines of its items in their order. The items,
the invalid ones, and those that came in time or too late, taken together, are equally many. Where
order does not matter, every item has the same outcome and the same metrics are passed on. Where it
does, the marks are the same: the greatest timestamp offered for each key. -/
theorem processSchedule_interleaved (config : Config) (pipeline : Pipeline)
    (interleaves : Interleaves sequences first) (again : Interleaves sequences second) :
    let one := processSchedule config pipeline first
    let other := processSchedule config pipeline second
    (one.2.dispatched.toList =
        pipeline.dispatched.toList ++ one.1.filterMap fun noted => noted.2.metric) ∧
      (∀ name, ((entriesOf name one.1).filterMap fun outcome =>
          outcome.metric.map Metric.line).Sublist
            ((sequences name).filterMap Observation.lineOf)) ∧
      one.2.counters.items = other.2.counters.items ∧
      one.2.counters.invalid = other.2.counters.invalid ∧
      one.2.counters.dispatched + one.2.counters.outOfOrder =
        other.2.counters.dispatched + other.2.counters.outOfOrder ∧
      (config.validateOrder = false →
        (∀ name, entriesOf name one.1 = entriesOf name other.1) ∧
          one.2.dispatched.toList.Perm other.2.dispatched.toList) ∧
      (config.validateOrder = true → ∀ key,
        IsGreatestOf (Offered config.policy pipeline.watermarks sequences key)
            (one.2.watermarks.last? key) ∧
          other.2.watermarks.last? key = one.2.watermarks.last? key) := by
  intro one other
  obtain ⟨items, invalid, valid⟩ :=
    processSchedule_counts config pipeline (interleaves.perm again)
  refine ⟨?_, ?_, items, invalid, valid, ?_, ?_⟩
  · have logged := (processSchedule_gains config pipeline first).dispatched
    rw [List.filterMap_map] at logged
    exact logged
  · intro name
    rw [← interleaves name]
    exact lines_sublist (entriesOf_forall₂ (processSchedule_outcomes config pipeline first) name)
  · intro orderless
    exact interleaves.orderless again orderless pipeline
  · intro ordered key
    have greatest := interleaves.greatest ordered pipeline key
    exact ⟨greatest, (again.greatest ordered pipeline key).unique greatest⟩

end Two

/-- Two senders, each with one sample of one key. The earlier one comes too late in one of the two
orders, and the mark is that of the later one in either. -/
theorem processSchedule_interleaved_late :
    let config := { Config.default with validateOrder := true }
    let taken (time : Int64) := Value.metricItem (.text "a") (.signed time) (.text "1")
    let one := processSchedule config .initial [(true, taken 3), (false, taken 5)]
    let other := processSchedule config .initial [(false, taken 5), (true, taken 3)]
    one.2.counters = ⟨2, 0, 0, 2, 0⟩ ∧ other.2.counters = ⟨2, 0, 1, 1, 0⟩ ∧
      one.2.counters.dispatched + one.2.counters.outOfOrder =
        other.2.counters.dispatched + other.2.counters.outOfOrder ∧
      one.2.watermarks.last? "a" = some 5 ∧ other.2.watermarks.last? "a" = some 5 := by
  intro config taken one other
  let sequences (name : Bool) : List Value := if name then [taken 3] else [taken 5]
  have interleaves : Interleaves sequences [(true, taken 3), (false, taken 5)] := by
    intro name
    cases name <;> rfl
  have again : Interleaves sequences [(false, taken 5), (true, taken 3)] := by
    intro name
    cases name <;> rfl
  obtain ⟨-, -, -, -, valid, -, marks⟩ :=
    processSchedule_interleaved config .initial interleaves again
  have marked : one.2.watermarks.last? "a" = some 5 := by decide +kernel
  refine ⟨by decide +kernel, by decide +kernel, valid, marked, ?_⟩
  rw [(marks rfl "a").2]
  exact marked

end Schedules

end MetricIntake.Pipeline
