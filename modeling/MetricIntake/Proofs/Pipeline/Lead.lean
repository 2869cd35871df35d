import MetricIntake.Proofs.Connection
import MetricIntake.Proofs.Pipeline.Judgement
import MetricIntake.Proofs.Telemetry

/-!
Contract: what a pipeline has counted does not matter to what it does next.

Owns:
- pipelines that agree in all but their readings and the number of batches, where one has a lead;
- that items and batches keep the lead, and have the same outcomes on both sides;
- taking up items in batches, which is taking up the items and a lead in the number of batches.

Does not own: the counters of items, which follow the outcomes.

## Why the readings are compared one by one

Readings are listed in the order in which the instruments were first touched. Counting a batch before
its items or after them can list them differently, so pipelines are compared by what an operator
reads from each instrument and not by their lists.
-/

set_option autoImplicit false

namespace MetricIntake

/-- A lead in the reading of one instrument. -/
def Telemetry.leadIn (instrument : Instrument) (count : UInt64) : Instrument → UInt64 :=
  fun seen => if instrument = seen then count else 0

theorem Telemetry.leadIn_zero (instrument seen : Instrument) : leadIn instrument 0 seen = 0 :=
  ite_self 0

theorem Telemetry.leadIn_add (instrument seen : Instrument) (first second : UInt64) :
    leadIn instrument first seen + leadIn instrument second seen =
      leadIn instrument (first + second) seen := by
  unfold leadIn
  split
  · rfl
  · exact UInt64.add_zero 0

/-- Counting is a lead of one in the instrument that counts. -/
theorem Telemetry.reading_increment_eq_leadIn (telemetry : Telemetry)
    (touched seen : Instrument) :
    (telemetry.increment touched).reading seen =
      telemetry.reading seen + leadIn touched 1 seen := by
  rw [reading_increment, leadIn]
  split
  · rfl
  · exact (UInt64.add_zero _).symm

namespace Pipeline

/-- One pipeline has a lead on another in its readings, and in its number of batches as far as the
reading of batches has one. They agree in all else. -/
structure Leads (lead : Instrument → UInt64) (behind ahead : Pipeline) : Prop where
  watermarks : ahead.watermarks = behind.watermarks
  dispatched : ahead.dispatched = behind.dispatched
  quarantined : ahead.quarantined = behind.quarantined
  counters : ahead.counters =
    { behind.counters with frames := behind.counters.frames + lead .frames }
  readings : ∀ instrument, ahead.telemetry.reading instrument =
    behind.telemetry.reading instrument + lead instrument

namespace Leads

variable {lead : Instrument → UInt64} {behind ahead : Pipeline}

/-- An instrument that is raised on both sides keeps its lead. -/
theorem readings_increment (leads : Leads lead behind ahead) (touched seen : Instrument) :
    (ahead.telemetry.increment touched).reading seen =
      (behind.telemetry.increment touched).reading seen + lead seen := by
  rw [Telemetry.reading_increment_eq_leadIn, Telemetry.reading_increment_eq_leadIn,
    leads.readings]
  ac_rfl

theorem countItem (leads : Leads lead behind ahead) :
    Leads lead behind.countItem ahead.countItem where
  watermarks := leads.watermarks
  dispatched := leads.dispatched
  quarantined := leads.quarantined
  counters := by rw [Pipeline.countItem, Pipeline.countItem, leads.counters]
  readings := leads.readings_increment .items

theorem record (leads : Leads lead behind ahead) (outcome : ItemOutcome) :
    Leads lead (behind.record outcome) (ahead.record outcome) := by
  constructor
  case readings =>
    cases outcome with
    | invalid error => exact leads.readings_increment .invalidItems
    | rejected line error => exact leads.readings_increment .invalidItems
    | outOfOrder line key error => exact leads.readings_increment .outOfOrderItems
    | dispatched metric => exact leads.readings_increment .dispatchedItems
  all_goals
    cases outcome <;>
      simp [Pipeline.record, countInvalid, countOutOfOrder, countDispatched, quarantine, dispatch,
        leads.watermarks, leads.dispatched, leads.quarantined, leads.counters]

/-- **The lead is kept by every item**, and the item has the same outcome on both sides. -/
theorem processItem (leads : Leads lead behind ahead) (config : Config) (item : Value) :
    (processItem config ahead item).1 = (Pipeline.processItem config behind item).1 ∧
      Leads lead (Pipeline.processItem config behind item).2
        (Pipeline.processItem config ahead item).2 := by
  rw [processItem_eq, processItem_eq, leads.watermarks]
  have recorded := leads.countItem.record (judge config behind.watermarks item).1
  exact ⟨rfl, rfl, recorded.dispatched, recorded.quarantined, recorded.counters,
    recorded.readings⟩

theorem processItems (leads : Leads lead behind ahead) (config : Config) (items : List Value) :
    Leads lead (Pipeline.processItems config behind items)
      (Pipeline.processItems config ahead items) := by
  induction items generalizing behind ahead with
  | nil => exact leads
  | cons item items inductionHypothesis =>
      exact inductionHypothesis (leads.processItem config item).2

theorem countFrame (leads : Leads lead behind ahead) :
    Leads lead behind.countFrame ahead.countFrame where
  watermarks := leads.watermarks
  dispatched := leads.dispatched
  quarantined := leads.quarantined
  counters := by
    rw [Pipeline.countFrame, Pipeline.countFrame, leads.counters]
    simp only [Counters.mk.injEq, true_and]
    ac_rfl
  readings := leads.readings_increment .frames

theorem processBatches (leads : Leads lead behind ahead) (config : Config)
    (batches : List (List Value)) :
    Leads lead (behind.processBatches config batches) (ahead.processBatches config batches) := by
  induction batches generalizing behind ahead with
  | nil => exact leads
  | cons items batches inductionHypothesis =>
      exact inductionHypothesis (leads.countFrame.processItems config items)

end Leads

/-! ### Batches -/

/-- Two pipelines differ at most in the number of batches. -/
structure AgreeButFrames (left right : Pipeline) : Prop where
  watermarks : right.watermarks = left.watermarks
  dispatched : right.dispatched = left.dispatched
  quarantined : right.quarantined = left.quarantined
  counters : right.counters = { left.counters with frames := right.counters.frames }
  readings : ∀ instrument ≠ .frames,
    right.telemetry.reading instrument = left.telemetry.reading instrument

theorem Leads.agree {first second : UInt64} {behind left right : Pipeline}
    (one : Leads (Telemetry.leadIn .frames first) behind left)
    (other : Leads (Telemetry.leadIn .frames second) behind right) :
    AgreeButFrames left right where
  watermarks := other.watermarks.trans one.watermarks.symm
  dispatched := other.dispatched.trans one.dispatched.symm
  quarantined := other.quarantined.trans one.quarantined.symm
  counters := by rw [one.counters, other.counters]
  readings := by
    intro instrument differs
    rw [one.readings, other.readings, Telemetry.leadIn, Telemetry.leadIn, if_neg differs.symm,
      if_neg differs.symm]

theorem leads_refl (pipeline : Pipeline) : Leads (fun _ => 0) pipeline pipeline := by
  constructor <;> simp

theorem Leads.trans {first second : Instrument → UInt64} {before middle after : Pipeline}
    (earlier : Leads first before middle) (later : Leads second middle after) :
    Leads (fun instrument => first instrument + second instrument) before after where
  watermarks := later.watermarks.trans earlier.watermarks
  dispatched := later.dispatched.trans earlier.dispatched
  quarantined := later.quarantined.trans earlier.quarantined
  counters := by
    rw [later.counters, earlier.counters]
    simp only [UInt64.add_assoc]
  readings := by
    intro instrument
    rw [later.readings, earlier.readings, UInt64.add_assoc]

theorem leads_countFrame (pipeline : Pipeline) :
    Leads (Telemetry.leadIn .frames 1) pipeline pipeline.countFrame where
  watermarks := rfl
  dispatched := rfl
  quarantined := rfl
  counters := rfl
  readings := pipeline.telemetry.reading_increment_eq_leadIn .frames

/-- **Batches are their items and a lead in the number of batches**, wherever one batch ends and
the next begins. -/
theorem processBatches_leads (config : Config) (pipeline : Pipeline)
    (batches : List (List Value)) :
    Leads (Telemetry.leadIn .frames (UInt64.ofNat batches.length))
      (processItems config pipeline batches.flatten) (pipeline.processBatches config batches) := by
  induction batches generalizing pipeline with
  | nil =>
      have even : Telemetry.leadIn .frames (UInt64.ofNat 0) = fun _ => 0 :=
        funext (Telemetry.leadIn_zero .frames)
      rw [List.length_nil, even]
      exact leads_refl pipeline
  | cons items batches inductionHypothesis =>
      -- The batch is counted after its items here, so that its lead is that of the whole rest.
      have first : Leads (Telemetry.leadIn .frames 1) (processItems config pipeline items)
          (pipeline.processBatch config items) :=
        (leads_countFrame pipeline).processItems config items
      have others := inductionHypothesis (processItems config pipeline items)
      have joined := others.trans (first.processBatches config batches)
      have counted : (fun instrument =>
            Telemetry.leadIn .frames (UInt64.ofNat batches.length) instrument +
              Telemetry.leadIn .frames 1 instrument) =
          Telemetry.leadIn .frames (UInt64.ofNat (items :: batches).length) := by
        funext instrument
        rw [Telemetry.leadIn_add, List.length_cons, UInt64.ofNat_add]
        rfl
      have split : processItems config pipeline (items :: batches).flatten =
          processItems config (processItems config pipeline items) batches.flatten := by
        rw [List.flatten_cons]
        exact List.foldl_append
      rw [counted] at joined
      rw [split]
      exact joined

end Pipeline

end MetricIntake
