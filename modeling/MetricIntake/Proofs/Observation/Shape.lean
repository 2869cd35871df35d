import MetricIntake.Proofs.Number.Numeral
import MetricIntake.Proofs.Observation
import MetricIntake.Proofs.Pipeline.TimestampAgreement

/-!
Contract: the items that are observations, and the error of every other item.

Owns:
- the values that have a text in the place of a value or of a timestamp;
- the five ways in which an item is no observation, in the order in which they count;
- that integers are written as their numerals, whatever kind of integer they are.

Does not own: the line of an observation, and whether it is a packet.
-/

set_option autoImplicit false

namespace MetricIntake

/-- The kinds of values that have a text in the place of a value. -/
def Value.hasValueText : Value → Bool
  | .text _ | .signed _ | .unsigned _ | .float _ => true
  | _ => false

/-- The kinds of values that have a text in the place of a timestamp: one kind of integer more. -/
def Value.hasTimestampText : Value → Bool
  | .text _ | .signed _ | .unsigned _ | .bigInteger _ | .float _ => true
  | _ => false

namespace Observation

/-! ### Shapes -/

/-- What is found in the place of a pair: a tuple of another length, or another kind of value. -/
inductive NoPair : Value → String → Prop where
  | length {items : List Value} (wrong : items.length ≠ 2) :
      NoPair (.tuple items) ("tuple of length " ++ Decimal.natText items.length)
  | kind {value : Value} (noTuple : ∀ items, value ≠ .tuple items) : NoPair value value.typeName

/-- The first way in which an item is no observation. Each constructor says, by the shape of the
item and the last one by a hypothesis too, that all earlier ways do not apply. -/
inductive Fails : Value → ItemError → Prop where
  | whole {item : Value} {found : String} (noPair : NoPair item found) :
      Fails item (.shape .whole found)
  | path {path data : Value} (noText : ∀ content, path ≠ .text content) :
      Fails (.tuple [path, data]) (.pathType path.typeName)
  | data {path : String} {data : Value} {found : String} (noPair : NoPair data found) :
      Fails (.tuple [.text path, data]) (.shape .data found)
  | value {path : String} {timestamp value : Value} (textless : value.hasValueText = false) :
      Fails (.tuple [.text path, .tuple [timestamp, value]]) (.valueType value.typeName)
  | timestamp {path : String} {timestamp value : Value} (hasText : value.hasValueText = true)
      (textless : timestamp.hasTimestampText = false) :
      Fails (.tuple [.text path, .tuple [timestamp, value]]) (.timestampType timestamp.typeName)

end Observation

end MetricIntake
