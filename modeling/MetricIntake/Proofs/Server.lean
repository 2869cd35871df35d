import MetricIntake.Proofs.Connection.Course
import MetricIntake.Proofs.Pipeline.Lead
import MetricIntake.Server

/-!
Contract: whatever becomes of one connection of a server, the others do not notice.

Owns:
- the instruments that items and batches touch, and those that they do not;
- the way in which a connection ended, as an operator reads it;
- serving one connection, which does to a pipeline what the connection alone would do, and counts its
  end once;
- serving connections one after the other, each of which may fail or panic.

Does not own: connections that are served at the same time.
-/

set_option autoImplicit false

namespace MetricIntake

/-! ### Instruments of items -/

/-- Whether an instrument is touched by items and batches. -/
def Instrument.isOfItems : Instrument → Bool
  | .items => true
  | .invalidItems => true
  | .outOfOrderItems => true
  | .dispatchedItems => true
  | .frames => true
  | _ => false

namespace Pipeline

section Untouched

variable {instrument : Instrument} (elsewhere : instrument.isOfItems = false)

include elsewhere

theorem reading_increment_of_items (telemetry : Telemetry) {touched : Instrument}
    (ofItems : touched.isOfItems = true) :
    (telemetry.increment touched).reading instrument = telemetry.reading instrument := by
  rw [Telemetry.reading_increment, if_neg]
  rintro rfl
  simp [elsewhere] at ofItems

theorem processItem_reading (config : Config) (pipeline : Pipeline) (item : Value) :
    (processItem config pipeline item).2.telemetry.reading instrument =
      pipeline.telemetry.reading instrument := by
  rw [processItem_eq]
  have counted : pipeline.countItem.telemetry.reading instrument =
      pipeline.telemetry.reading instrument := reading_increment_of_items elsewhere _ rfl
  cases (judge config pipeline.watermarks item).1 with
  | _ => exact (reading_increment_of_items elsewhere _ rfl).trans counted

theorem processItems_reading (config : Config) (pipeline : Pipeline) (items : List Value) :
    (processItems config pipeline items).telemetry.reading instrument =
      pipeline.telemetry.reading instrument := by
  induction items generalizing pipeline with
  | nil => rfl
  | cons item items inductionHypothesis =>
      exact (inductionHypothesis (processItem config pipeline item).2).trans
        (processItem_reading elsewhere config pipeline item)

/-- Batches touch the instruments of items, and no others. -/
theorem processBatches_reading (config : Config) (pipeline : Pipeline)
    (batches : List (List Value)) :
    (pipeline.processBatches config batches).telemetry.reading instrument =
      pipeline.telemetry.reading instrument := by
  induction batches generalizing pipeline with
  | nil => rfl
  | cons items batches inductionHypothesis =>
      have counted : pipeline.countFrame.telemetry.reading instrument =
          pipeline.telemetry.reading instrument := reading_increment_of_items elsewhere _ rfl
      exact (inductionHypothesis (pipeline.processBatch config items)).trans
        ((processItems_reading elsewhere config pipeline.countFrame items).trans counted)

end Untouched

/-- Two pipelines have done the same, whatever an operator reads. -/
structure SameEffects (left right : Pipeline) : Prop where
  watermarks : right.watermarks = left.watermarks
  counters : right.counters = left.counters
  dispatched : right.dispatched = left.dispatched
  quarantined : right.quarantined = left.quarantined

end Pipeline

/-- The instrument that counts connections with this end. A connection that is closed without an
error is not counted. -/
def ConnectionResult.instrument? : ConnectionResult → Option Instrument
  | .finished _ => none
  | .failed error => some (.connectionErrors error.kind)
  | .panicked _ => some .connectionPanics

namespace Server

open Connection (Course)
open Pipeline (Leads SameEffects)

/-! ### One connection -/

theorem countEnd_reading (pipeline : Pipeline) (result : ConnectionResult)
    (instrument : Instrument) :
    (countEnd pipeline result).telemetry.reading instrument =
      pipeline.telemetry.reading instrument +
        if result.instrument? = some instrument then 1 else 0 := by
  cases result with
  | finished stats => simp [countEnd, ConnectionResult.instrument?]
  | failed error =>
      rw [countEnd, Telemetry.reading_increment_eq_leadIn, Telemetry.leadIn]
      simp only [ConnectionResult.instrument?, Option.some.injEq]
  | panicked payload =>
      rw [countEnd, Telemetry.reading_increment_eq_leadIn, Telemetry.leadIn]
      simp only [ConnectionResult.instrument?, Option.some.injEq]

theorem countEnd_sameEffects (pipeline : Pipeline) (result : ConnectionResult) :
    SameEffects pipeline (countEnd pipeline result) := by
  cases result <;> exact ⟨rfl, rfl, rfl, rfl⟩

/-- A connection that is active is a lead in the number of active connections. -/
theorem leads_active (pipeline : Pipeline) :
    Leads (Telemetry.leadIn .activeConnections 1) pipeline
      { pipeline with telemetry := pipeline.telemetry.increment .activeConnections } where
  watermarks := rfl
  dispatched := rfl
  quarantined := rfl
  counters := by simp [Telemetry.leadIn]
  readings := pipeline.telemetry.reading_increment_eq_leadIn .activeConnections

/-- The lead is given back when the connection ends. -/
theorem idle_reading {ran busy : Pipeline}
    (leads : Leads (Telemetry.leadIn .activeConnections 1) ran busy) (instrument : Instrument) :
    (busy.telemetry.decrement .activeConnections).reading instrument =
      ran.telemetry.reading instrument := by
  rw [Telemetry.reading_decrement, leads.readings, Telemetry.leadIn]
  split
  · exact UInt64.add_sub_cancel _ 1
  · exact UInt64.add_zero _

/-- Serving a connection does what the batches of its course do, and counts its end. -/
theorem serveConnection_course {config : Config} {decoder : Decoder} {source : Frame.Source}
    {batches : List (List Value)} {stop : Connection.Stop}
    (course : Course config.frameLimits decoder (.ofSource source) batches stop)
    (pipeline : Pipeline) :
    let ran := pipeline.processBatches config batches
    let result := stop.result (ConnectionStats.zero.addAll batches)
    ∃ after, serveConnection config decoder pipeline source = (some result, after) ∧
      SameEffects ran after ∧
      ∀ instrument, after.telemetry.reading instrument = ran.telemetry.reading instrument +
        if result.instrument? = some instrument then 1 else 0 := by
  intro ran result
  have leads := (leads_active pipeline).processBatches config batches
  -- The connection runs on a pipeline in which it counts as active, and that is all the difference.
  let busy := Pipeline.processBatches config
    { pipeline with telemetry := pipeline.telemetry.increment .activeConnections } batches
  let idle := { busy with telemetry := busy.telemetry.decrement .activeConnections }
  have served : serveConnection config decoder pipeline source =
      (some result, countEnd idle result) := by
    rw [serveConnection, course.run_eq]
  refine ⟨countEnd idle result, served, ?_, fun instrument => ?_⟩
  · obtain ⟨watermarks, counters, dispatched, quarantined⟩ := countEnd_sameEffects idle result
    refine ⟨watermarks.trans leads.watermarks, counters.trans ?_, dispatched.trans leads.dispatched,
      quarantined.trans leads.quarantined⟩
    refine leads.counters.trans ?_
    simp [Telemetry.leadIn, ran]
  · rw [countEnd_reading]
    exact congrArg (· + _) (idle_reading leads instrument)

/-! ### One after the other -/

/-- A connection was served, and nothing but its own end came of the way in which it ended. -/
structure Isolates (config : Config) (decoder : Decoder) (before : Pipeline) (source : Frame.Source)
    (result : ConnectionResult) (after : Pipeline) : Prop where
  /-- It has the result and the effects of the connection alone, on the pipeline that it found. -/
  alone : ∃ ran, Connection.run config decoder before source = (some result, ran) ∧
    SameEffects ran after
  /-- Its effects are those of the frames before the one at which it stopped. -/
  course : ∃ batches stop,
    Course config.frameLimits decoder (.ofSource source) batches stop ∧
      result = stop.result (ConnectionStats.zero.addAll batches) ∧
      SameEffects (before.processBatches config batches) after
  /-- If it ended with an error, it is counted under the kind of its error and no other. -/
  errors : ∀ kind, after.telemetry.reading (.connectionErrors kind) =
    before.telemetry.reading (.connectionErrors kind) +
      if result.instrument? = some (.connectionErrors kind) then 1 else 0
  /-- If it panicked, it is counted among the panics, and only then. -/
  panics : after.telemetry.reading .connectionPanics =
    before.telemetry.reading .connectionPanics +
      if result.instrument? = some .connectionPanics then 1 else 0
  /-- No connection is active after it. -/
  idle : after.telemetry.reading .activeConnections = 0

theorem serveConnection_isolates {config : Config} (decoder : Decoder) {pipeline : Pipeline}
    {source : Frame.Source} (idle : pipeline.telemetry.reading .activeConnections = 0)
    (settles : source.ending.settles config.readTimeout = true) :
    ∃ result after, serveConnection config decoder pipeline source = (some result, after) ∧
      Isolates config decoder pipeline source result after := by
  obtain ⟨batches, stop, course⟩ : ∃ batches stop,
      Course config.frameLimits decoder (.ofSource source) batches stop :=
    Connection.exists_course decoder _ settles
  obtain ⟨after, served, effects, readings⟩ := serveConnection_course course pipeline
  have untouched {instrument : Instrument} (elsewhere : instrument.isOfItems = false) :
      after.telemetry.reading instrument = pipeline.telemetry.reading instrument +
        if (stop.result (ConnectionStats.zero.addAll batches)).instrument? = some instrument
          then 1 else 0 := by
    rw [readings, Pipeline.processBatches_reading elsewhere]
  refine ⟨_, after, served, ⟨_, course.run_eq pipeline, effects⟩,
    ⟨batches, stop, course, rfl, effects⟩, fun kind => untouched rfl, untouched rfl, ?_⟩
  rw [untouched rfl, idle]
  cases stop.result (ConnectionStats.zero.addAll batches) <;> rfl

theorem serveAll_append (config : Config) (decoder : Decoder) (pipeline : Pipeline)
    (earlier later : List Frame.Source) :
    serveAll config decoder pipeline (earlier ++ later) =
      serveAll config decoder (serveAll config decoder pipeline earlier) later :=
  List.foldl_append

theorem serveAll_idle {config : Config} (decoder : Decoder) {pipeline : Pipeline}
    {sources : List Frame.Source} (idle : pipeline.telemetry.reading .activeConnections = 0)
    (settle : ∀ source ∈ sources, source.ending.settles config.readTimeout = true) :
    (serveAll config decoder pipeline sources).telemetry.reading .activeConnections = 0 := by
  induction sources generalizing pipeline with
  | nil => exact idle
  | cons source sources inductionHypothesis =>
      rw [List.forall_mem_cons] at settle
      obtain ⟨result, after, served, isolates⟩ := serveConnection_isolates decoder idle settle.1
      have first : (serveConnection config decoder pipeline source).2 = after :=
        congrArg Prod.snd served
      show (serveAll config decoder (serveConnection config decoder pipeline source).2
        sources).telemetry.reading .activeConnections = 0
      rw [first]
      exact inductionHypothesis isolates.idle settle.2

/-- **Connections are isolated from each other's failures.** Any number of connections, each on a
stream that comes to an end in whatever way, are served one after the other with a decoder that may
fail or panic. Each of them comes to the result and the effects that it has alone on the pipeline
left behind by those before it, which are the effects of its frames before the one at which it
stopped. Its end is counted once, and no connection stays active. -/
theorem serveAll_isolates {config : Config} (decoder : Decoder) {pipeline : Pipeline}
    {sources : List Frame.Source} (idle : pipeline.telemetry.reading .activeConnections = 0)
    (settle : ∀ source ∈ sources, source.ending.settles config.readTimeout = true)
    {earlier later : List Frame.Source} {source : Frame.Source}
    (point : sources = earlier ++ source :: later) :
    ∃ result,
      serveConnection config decoder (serveAll config decoder pipeline earlier) source =
          (some result, serveAll config decoder pipeline (earlier ++ [source])) ∧
        Isolates config decoder (serveAll config decoder pipeline earlier) source result
          (serveAll config decoder pipeline (earlier ++ [source])) ∧
        serveAll config decoder pipeline sources =
          serveAll config decoder (serveAll config decoder pipeline (earlier ++ [source]))
            later := by
  subst point
  rw [List.forall_mem_append, List.forall_mem_cons] at settle
  obtain ⟨earlierSettle, settles, -⟩ := settle
  obtain ⟨result, after, served, isolates⟩ :=
    serveConnection_isolates decoder (serveAll_idle decoder idle earlierSettle) settles
  have left : serveAll config decoder pipeline (earlier ++ [source]) = after := by
    rw [serveAll_append]
    exact congrArg Prod.snd served
  refine ⟨result, ?_, ?_, ?_⟩
  · rw [left, served]
  · rw [left]
    exact isolates
  · rw [← serveAll_append, List.append_assoc]
    rfl

/-- A decoder that panics on one payload, and takes every other for the empty batch. -/
def panicOn (bad : Bytes) : Decoder := fun payload =>
  if payload = bad then .panicked (.text "worker lost") else .value (.list [])

theorem serveAll_isolates_panic :
    let decoder := panicOn [128, 2, 93, 78]
    let lost : Frame.Source :=
      ⟨Frame.encode [128, 2, 93, 46] ++ Frame.encode [128, 2, 93, 78], [], .closed⟩
    let unmarked : Frame.Source := ⟨[0, 0, 0, 3, 1, 2, 3], [2], .closed⟩
    let orderly : Frame.Source := ⟨Frame.encode [128, 2, 93, 46], [], .closed⟩
    let before := serveAll .default decoder .initial [lost]
    let after := serveAll .default decoder .initial [lost, unmarked]
    before.telemetry.reading .connectionPanics = 1 ∧
      Isolates .default decoder before unmarked (.failed (.frame (.invalidMarker [1, 2, 3])))
        after ∧
      after.telemetry.reading (.connectionErrors "prefix") = 1 ∧
      serveAll .default decoder .initial [lost, unmarked, orderly] =
        serveAll .default decoder after [orderly] := by
  intro decoder lost unmarked orderly before after
  have idle : Pipeline.initial.telemetry.reading .activeConnections = 0 := rfl
  have settle : ∀ source ∈ [lost, unmarked, orderly],
      source.ending.settles Config.default.readTimeout = true := by decide
  have point : [lost, unmarked, orderly] = [lost] ++ unmarked :: [orderly] := rfl
  obtain ⟨result, served, isolates, goesOn⟩ := serveAll_isolates decoder idle settle point
  have refused : (serveConnection .default decoder before unmarked).1 =
      some (.failed (.frame (.invalidMarker [1, 2, 3]))) := by decide +kernel
  have same : result = .failed (.frame (.invalidMarker [1, 2, 3])) :=
    Option.some.inj ((congrArg Prod.fst served).symm.trans refused)
  subst same
  exact ⟨by decide +kernel, isolates, by decide +kernel, goesOn⟩

end Server

end MetricIntake
