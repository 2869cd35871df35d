import MetricIntake.Packet.Reading
import MetricIntake.Telemetry

/-!
Contract: handing metrics to their consumer.

Owns:
- the metric that a consumer receives, a line with its parsed value and timestamp;
- the bounded queue between the pipeline and one consumer.

Does not own: which metrics are dispatched.
-/

namespace MetricIntake

/-- A metric for the consumer. -/
structure Metric where
  line : Bytes
  value : Binary64
  timestamp : UInt32
deriving DecidableEq, Repr

/-- A queue of bounded length with one consumer. -/
structure DispatchQueue where
  capacity : Nat
  /-- The waiting metrics, the oldest first. -/
  waiting : List Metric
  isOpen : Bool
  telemetry : Telemetry
deriving DecidableEq, Repr

namespace DispatchQueue

def zeroCapacityMessage : String := "mpsc bounded channel requires buffer > 0"

/-- An empty queue, which must be able to hold a metric. -/
def create (capacity : Nat) : Except String DispatchQueue :=
  if capacity = 0 then .error zeroCapacityMessage
  else .ok { capacity, waiting := [], isOpen := true, telemetry := .empty }

/-- Puts a metric at the end. Where there is no room, or no consumer, it is dropped and
counted. -/
def send (queue : DispatchQueue) (metric : Metric) : DispatchQueue :=
  if queue.isOpen && queue.waiting.length < queue.capacity then
    { queue with waiting := queue.waiting ++ [metric] }
  else { queue with telemetry := queue.telemetry.increment .droppedDispatches }

/-- Takes the oldest metric, if one is waiting. -/
def receive (queue : DispatchQueue) : Option Metric × DispatchQueue :=
  match queue.waiting with
  | [] => (none, queue)
  | metric :: rest => (some metric, { queue with waiting := rest })

/-- The consumer leaves, and with it whatever is waiting. -/
def close (queue : DispatchQueue) : DispatchQueue :=
  { queue with waiting := [], isOpen := false }

end DispatchQueue

end MetricIntake
