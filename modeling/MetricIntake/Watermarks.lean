import MetricIntake.Number.Decimal

/-!
Contract: the latest timestamp of each metric key.

Owns:
- the map from keys to their latest timestamps;
- the rule that a timestamp must be after the latest one, and the error of one that is not.

Does not own: which timestamps are offered; only packets that passed every other check are.
-/

namespace MetricIntake

/-- A timestamp that is not after the latest one of its key. -/
structure OutOfOrder where
  timestamp : UInt32
  last : UInt32
deriving DecidableEq, Repr

def OutOfOrder.message (error : OutOfOrder) : String :=
  "out of order: timestamp " ++ Decimal.natText error.timestamp.toNat ++ " is not after " ++
    Decimal.natText error.last.toNat

/-- The latest timestamps, at most one for each key. -/
structure Watermarks where
  entries : List (String × UInt32)
deriving DecidableEq, Repr

namespace Watermarks

def empty : Watermarks := ⟨[]⟩

def last? (marks : Watermarks) (key : String) : Option UInt32 :=
  marks.entries.lookup key

def set (marks : Watermarks) (key : String) (timestamp : UInt32) : Watermarks :=
  ⟨(key, timestamp) :: marks.entries.filter fun entry => entry.1 != key⟩

def size (marks : Watermarks) : Nat := marks.entries.length

/-- Accepts a timestamp that is after the latest one of its key, or the first one, and moves the
key's mark to it. A refused timestamp moves nothing. -/
def advance (marks : Watermarks) (key : String) (timestamp : UInt32) :
    Except OutOfOrder Watermarks :=
  match marks.last? key with
  | none => .ok (marks.set key timestamp)
  | some last =>
      if last < timestamp then .ok (marks.set key timestamp) else .error ⟨timestamp, last⟩

theorem last?_set_self (marks : Watermarks) (key : String) (timestamp : UInt32) :
    (marks.set key timestamp).last? key = some timestamp := by
  simp [set, last?]

end Watermarks

end MetricIntake
