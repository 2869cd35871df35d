/-!
Contract: what a running intake counts.

Owns:
- the counters of items and frames, which every pipeline keeps;
- the readings of the named instruments that an operator sees, each present once it was touched.

Does not own: when something is counted.
-/

namespace MetricIntake

/-- The counters of a pipeline. Like every counter of 64 bits they start anew after the greatest
number. -/
structure Counters where
  items : UInt64
  invalid : UInt64
  outOfOrder : UInt64
  dispatched : UInt64
  frames : UInt64
deriving DecidableEq, Repr

/-- Nothing counted yet. -/
def Counters.zero : Counters := ⟨0, 0, 0, 0, 0⟩

/-- What an operator can read. -/
inductive Instrument where
  | items
  | invalidItems
  | outOfOrderItems
  | dispatchedItems
  | frames
  | droppedDispatches
  | activeConnections
  | connectionPanics
  | connectionErrors (kind : String)
deriving DecidableEq, Repr

def Instrument.name : Instrument → String
  | .items => "pickle_items_total"
  | .invalidItems => "pickle_items_invalid_total"
  | .outOfOrderItems => "pickle_items_out_of_order_total"
  | .dispatchedItems => "pickle_items_dispatched_total"
  | .frames => "pickle_frames_decoded_total"
  | .droppedDispatches => "pickle_dispatch_dropped_total"
  | .activeConnections => "pickle_connections_active"
  | .connectionPanics => "pickle_connection_panics_total"
  | .connectionErrors kind => "pickle_connection_errors_total\x7bkind=" ++ kind ++ "\x7d"

/-- The readings of the instruments that were touched. -/
structure Telemetry where
  /-- Instruments with their readings, in the order in which they were first touched. -/
  readings : List (Instrument × UInt64)
deriving DecidableEq, Repr

namespace Telemetry

def empty : Telemetry := ⟨[]⟩

/-- The reading of an instrument, zero before it was touched. -/
def reading (telemetry : Telemetry) (instrument : Instrument) : UInt64 :=
  (telemetry.readings.lookup instrument).getD 0

/-- Changes the reading of an instrument in a list of readings, where it stands or at the end. -/
def changeIn (instrument : Instrument) (change : UInt64 → UInt64) :
    List (Instrument × UInt64) → List (Instrument × UInt64)
  | [] => [(instrument, change 0)]
  | (head, value) :: rest =>
      if head = instrument then (head, change value) :: rest
      else (head, value) :: changeIn instrument change rest

def increment (telemetry : Telemetry) (instrument : Instrument) : Telemetry :=
  ⟨changeIn instrument (· + 1) telemetry.readings⟩

def decrement (telemetry : Telemetry) (instrument : Instrument) : Telemetry :=
  ⟨changeIn instrument (· - 1) telemetry.readings⟩

end Telemetry

end MetricIntake
