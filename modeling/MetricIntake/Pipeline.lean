import MetricIntake.Config
import MetricIntake.Dispatch
import MetricIntake.Observation
import MetricIntake.Watermarks

/-!
Contract: what becomes of each item of a batch.

Owns:
- the outcome of an item: passed on, or the first check that it fails;
- the effects of an outcome on the counters, the readings, the marks and the two logs;
- the effects of a batch.

Does not own: where items come from, and who reads the logs.
-/

namespace MetricIntake

/-- Why an acceptable observation is not passed on. -/
inductive RejectionCause where
  | packet (error : PacketError)
  | order (error : OutOfOrder)
deriving DecidableEq, Repr

def RejectionCause.message : RejectionCause → String
  | .packet error => error.message
  | .order error => error.message

/-- A line that is put into quarantine. -/
structure Rejection where
  key : String
  line : Bytes
  cause : RejectionCause
deriving DecidableEq, Repr

/-- What becomes of an item. -/
inductive ItemOutcome where
  | invalid (error : ItemError)
  | rejected (line : Bytes) (error : PacketError)
  | outOfOrder (line : Bytes) (key : String) (error : OutOfOrder)
  | dispatched (metric : Metric)
deriving DecidableEq, Repr

/-- The state of a pipeline: what later items depend on, and what it has done so far. -/
structure Pipeline where
  watermarks : Watermarks
  counters : Counters
  telemetry : Telemetry
  /-- The metrics passed on, the oldest first. -/
  dispatched : Array Metric
  /-- The lines put into quarantine, the oldest first. -/
  quarantined : Array Rejection
deriving DecidableEq, Repr

namespace Pipeline

def initial : Pipeline := ⟨.empty, .zero, .empty, #[], #[]⟩

/-- The checks that an item passes, in their order: it is an observation, its line is a packet and,
where order matters, its timestamp is the latest of its key. The marks move only for an item that
passes all of them. -/
def judge (config : Config) (marks : Watermarks) (item : Value) : ItemOutcome × Watermarks :=
  match Observation.ofItem item with
  | .error error => (.invalid error, marks)
  | .ok observation =>
      let line := observation.line
      match Packet.read config.policy line with
      | .error error => (.rejected line error, marks)
      | .ok packet =>
          let metric : Metric := ⟨line, packet.value, packet.timestamp⟩
          if config.validateOrder then
            match marks.advance packet.key packet.timestamp with
            | .error error => (.outOfOrder line packet.key error, marks)
            | .ok advanced => (.dispatched metric, advanced)
          else (.dispatched metric, marks)

def countItem (pipeline : Pipeline) : Pipeline :=
  { pipeline with
    counters := { pipeline.counters with items := pipeline.counters.items + 1 }
    telemetry := pipeline.telemetry.increment .items }

def countInvalid (pipeline : Pipeline) : Pipeline :=
  { pipeline with
    counters := { pipeline.counters with invalid := pipeline.counters.invalid + 1 }
    telemetry := pipeline.telemetry.increment .invalidItems }

def countOutOfOrder (pipeline : Pipeline) : Pipeline :=
  { pipeline with
    counters := { pipeline.counters with outOfOrder := pipeline.counters.outOfOrder + 1 }
    telemetry := pipeline.telemetry.increment .outOfOrderItems }

def countDispatched (pipeline : Pipeline) : Pipeline :=
  { pipeline with
    counters := { pipeline.counters with dispatched := pipeline.counters.dispatched + 1 }
    telemetry := pipeline.telemetry.increment .dispatchedItems }

def countFrame (pipeline : Pipeline) : Pipeline :=
  { pipeline with
    counters := { pipeline.counters with frames := pipeline.counters.frames + 1 }
    telemetry := pipeline.telemetry.increment .frames }

def quarantine (pipeline : Pipeline) (rejection : Rejection) : Pipeline :=
  { pipeline with quarantined := pipeline.quarantined.push rejection }

def dispatch (pipeline : Pipeline) (metric : Metric) : Pipeline :=
  { pipeline with dispatched := pipeline.dispatched.push metric }

def record (pipeline : Pipeline) : ItemOutcome → Pipeline
  | .invalid _ => pipeline.countInvalid
  | .rejected line error => (pipeline.quarantine ⟨error.key, line, .packet error⟩).countInvalid
  | .outOfOrder line key error =>
      (pipeline.quarantine ⟨key, line, .order error⟩).countOutOfOrder
  | .dispatched metric => (pipeline.dispatch metric).countDispatched

def processItem (config : Config) (pipeline : Pipeline) (item : Value) :
    ItemOutcome × Pipeline :=
  let (outcome, marks) := judge config pipeline.watermarks item
  (outcome, { pipeline.countItem.record outcome with watermarks := marks })

def processItems (config : Config) (pipeline : Pipeline) (items : List Value) : Pipeline :=
  items.foldl (fun state item => (processItem config state item).2) pipeline

/-- Takes up a batch: counts it, then takes up its items. -/
def processBatch (config : Config) (pipeline : Pipeline) (items : List Value) : Pipeline :=
  processItems config pipeline.countFrame items

end Pipeline

end MetricIntake
