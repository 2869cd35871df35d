import MetricIntake.Number.Literal
import MetricIntake.Value

/-!
Contract: the order of set members and dictionary keys.

Owns:
- the comparison of two keys: by kind, numbers by value, sequences member by member;
- sorted sets, in which the last of equal members stays;
- sorted dictionaries, in which the first of equal keys stays and takes the last value.

Does not own: which values may be keys; `Pickle.Resolution` refuses the others.

## Where the comparison depends on the side

Among integers of any size, texts, bytes and what is made of them, the comparison is a linear order.
Floats break it. An integer is compared with a float as a float, so one float may equal several
integers; what is not a number is less than every number from either side; and a float on the left
of an integer beyond 64 bits is not compared by value at all. So the side on which a key stands is
part of the rule. A set compares a member on the left with those that came before it, from the last
one down, and a dictionary compares a new key on the left with those that are there, from the first
one up.
-/

namespace MetricIntake.Pickle.KeyOrder

/-- A numeric key. Truth values count as zero and one. -/
inductive NumericKey where
  | integer (number : Int)
  | float (number : Binary64)

/-- Two floats by value. What is not a number counts as less than any other number, on either
side. -/
def compareFloats (left right : Binary64) : Ordering :=
  (Binary64.compare? left right).getD .lt

/-- A float on the left of an integer. An integer of 64 bits is taken as a float. Any greater one is
above the float and any lesser one below it, whatever the float is. -/
def compareFloatInteger (left : Binary64) (right : Int) : Ordering :=
  if Literal.fitsInt64 right then compareFloats left (Binary64.ofInt right)
  else if right < 0 then .gt else .lt

/-- Two numbers by value: integers exactly, an integer and a float as floats, except for a float on
the left of an integer beyond 64 bits. -/
def NumericKey.compare : NumericKey → NumericKey → Ordering
  | .integer left, .integer right => Ord.compare left right
  | .integer left, .float right => compareFloats (Binary64.ofInt left) right
  | .float left, .integer right => compareFloatInteger left right
  | .float left, .float right => compareFloats left right

def numericKey? : Value → Option NumericKey
  | .bool truth => some (.integer (if truth then 1 else 0))
  | .signed number => some (.integer number.toInt)
  | .unsigned number => some (.integer number.toNat)
  | .bigInteger number => some (.integer number)
  | .float number => some (.float number)
  | _ => none

def kindRank : Value → Nat
  | .null => 0
  | .bool _ | .signed _ | .unsigned _ | .bigInteger _ | .float _ => 1
  | .bytes _ => 2
  | .text _ => 3
  | .set _ => 4
  | .tuple _ => 5
  | .list _ | .dict _ => 6

def compareBytes : Bytes → Bytes → Ordering
  | [], [] => .eq
  | [], _ :: _ => .lt
  | _ :: _, [] => .gt
  | left :: leftRest, right :: rightRest =>
      (compare left.toNat right.toNat).then (compareBytes leftRest rightRest)

mutual

def compareKeys : Value → Value → Ordering
  | .bytes left, .bytes right => compareBytes left right
  | .text left, .text right => compare left right
  | .set left, .set right => compareAll left right
  | .tuple left, .tuple right => compareAll left right
  | left, right =>
      match numericKey? left, numericKey? right with
      | some leftKey, some rightKey => leftKey.compare rightKey
      | _, _ => compare (kindRank left) (kindRank right)

def compareAll : List Value → List Value → Ordering
  | [], [] => .eq
  | [], _ :: _ => .lt
  | _ :: _, [] => .gt
  | left :: leftRest, right :: rightRest =>
      (compareKeys left right).then (compareAll leftRest rightRest)

end

/-- Puts a member into a list that is sorted downwards, in front of its equals. -/
def insertDescending (item : Value) : List Value → List Value
  | [] => [item]
  | head :: rest =>
      if compareKeys item head = .lt then head :: insertDescending item rest
      else item :: head :: rest

def lastOfRuns : List Value → List Value
  | [] => []
  | [item] => [item]
  | item :: next :: rest =>
      if compareKeys item next = .eq then lastOfRuns (next :: rest)
      else item :: lastOfRuns (next :: rest)

def sortedSet (items : List Value) : List Value :=
  lastOfRuns (items.foldl (fun sorted item => insertDescending item sorted) []).reverse

/-- Puts an entry into a sorted dictionary; a key that is there already takes the value. -/
def insertEntry (key value : Value) : List (Value × Value) → List (Value × Value)
  | [] => [(key, value)]
  | (head, held) :: rest =>
      match compareKeys key head with
      | .gt => (head, held) :: insertEntry key value rest
      | .eq => (head, value) :: rest
      | .lt => (key, value) :: (head, held) :: rest

def sortedDict (entries : List (Value × Value)) : List (Value × Value) :=
  entries.foldl (fun sorted entry => insertEntry entry.1 entry.2 sorted) []

end MetricIntake.Pickle.KeyOrder
