import MetricIntake.Number.FixedPoint
import MetricIntake.Text.Utf8
import MetricIntake.Value

/-!
Contract: observations, the items of a batch as path, value and timestamp texts.

Owns:
- the shape of an item, a path beside a pair of timestamp and value, and the errors of other
  shapes in the order in which they are looked for;
- the canonical texts of values and timestamps;
- the line that joins the three texts.

Does not own: whether the line is acceptable; nothing is escaped here, and a text that would move
into another field is left for `Packet` to refuse.
-/

namespace MetricIntake

/-- A part of an item that must be a pair. -/
inductive ItemPart where
  /-- The item: path and data. -/
  | whole
  /-- The data: timestamp and value. -/
  | data
deriving DecidableEq, Repr

def ItemPart.name : ItemPart → String
  | .whole => "item"
  | .data => "item data"

/-- Why an item is no observation. -/
inductive ItemError where
  | shape (part : ItemPart) (found : String)
  | pathType (found : String)
  | valueType (found : String)
  | timestampType (found : String)
deriving DecidableEq, Repr

def ItemError.message : ItemError → String
  | .shape part found => part.name ++ " must be a pair, got " ++ found
  | .pathType found => "item metric must be a string, got " ++ found
  | .valueType found => "unrecognized type " ++ found ++ " for value"
  | .timestampType found => "unrecognized type " ++ found ++ " for timestamp"

/-- One measurement of a metric, as texts. -/
structure Observation where
  path : String
  value : String
  timestamp : String
deriving DecidableEq, Repr

namespace Observation

def valuePlaces : Nat := 6

def timestampPlaces : Nat := 0

/-- A floating-point number with a fixed number of places; infinities and what is not a number
have names. -/
def floatText (places : Nat) (number : Binary64) : String :=
  if number.isNaN then "NaN"
  else if number.isInfinite then (if number.isNegative then "-Inf" else "+Inf")
  else FixedPoint.text places number

/-- The text of a value: text as it is, integers of 64 bits in base ten, floating-point numbers
with six places. -/
def valueText : Value → Except ItemError String
  | .text content => .ok content
  | .signed number => .ok (Decimal.intText number.toInt)
  | .unsigned number => .ok (Decimal.natText number.toNat)
  | .float number => .ok (floatText valuePlaces number)
  | other => .error (.valueType other.typeName)

/-- The text of a timestamp: as that of a value, but integers of any size are allowed and
floating-point numbers are rounded to integers. -/
def timestampText : Value → Except ItemError String
  | .text content => .ok content
  | .signed number => .ok (Decimal.intText number.toInt)
  | .unsigned number => .ok (Decimal.natText number.toNat)
  | .bigInteger number => .ok (Decimal.intText number)
  | .float number => .ok (floatText timestampPlaces number)
  | other => .error (.timestampType other.typeName)

def pair (part : ItemPart) : Value → Except ItemError (Value × Value)
  | .tuple [first, second] => .ok (first, second)
  | .tuple items => .error (.shape part ("tuple of length " ++ Decimal.natText items.length))
  | other => .error (.shape part other.typeName)

def pathText : Value → Except ItemError String
  | .text content => .ok content
  | other => .error (.pathType other.typeName)

/-- The observation that an item holds. The value is looked at before the timestamp. -/
def ofItem (item : Value) : Except ItemError Observation := do
  let (pathValue, data) ← pair .whole item
  let path ← pathText pathValue
  let (timestampValue, valueValue) ← pair .data data
  let value ← valueText valueValue
  let timestamp ← timestampText timestampValue
  return { path, value, timestamp }

def space : UInt8 := 32

/-- The line of an observation: path, value and timestamp with a blank between them. -/
def line (observation : Observation) : Bytes :=
  Utf8.encode observation.path ++ space :: Utf8.encode observation.value ++
    space :: Utf8.encode observation.timestamp

end Observation

end MetricIntake
