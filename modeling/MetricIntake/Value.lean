import MetricIntake.Bytes
import MetricIntake.Number.Binary64

/-!
Contract: the values that payloads carry.

Owns:
- the closed tree of values that a decoded payload consists of;
- the name of each kind of value in messages.

Does not own: how a payload spells a value, nor which values a metric may have.
-/

namespace MetricIntake

/-- A decoded value. Integers keep the width they were decoded with; sets and dictionaries keep
their entries in key order. -/
inductive Value where
  | null
  | bool (truth : Bool)
  | text (content : String)
  | bytes (content : Bytes)
  | signed (number : Int64)
  | unsigned (number : UInt64)
  | bigInteger (number : Int)
  | float (number : Binary64)
  | list (items : List Value)
  | tuple (items : List Value)
  | set (items : List Value)
  /-- Keys, each with a value. -/
  | dict (entries : List (Value × Value))
deriving Inhabited, Repr

namespace Value

def typeName : Value → String
  | .null => "none"
  | .bool _ => "bool"
  | .text _ => "text"
  | .bytes _ => "bytes"
  | .signed _ => "signed integer"
  | .unsigned _ => "unsigned integer"
  | .bigInteger _ => "big integer"
  | .float _ => "float"
  | .list _ => "list"
  | .tuple _ => "tuple"
  | .set _ => "set"
  | .dict _ => "dict"

/-- The item that a sender writes for one metric: the path beside the pair of timestamp and
value. -/
def metricItem (path timestamp value : Value) : Value :=
  .tuple [path, .tuple [timestamp, value]]

end Value

end MetricIntake
