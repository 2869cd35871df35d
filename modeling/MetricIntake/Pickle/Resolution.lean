import MetricIntake.Number.Literal
import MetricIntake.Pickle.Fault
import MetricIntake.Pickle.KeyOrder
import MetricIntake.Pickle.Memo

/-!
Contract: the value of an object.

Owns:
- replacing references by what the memo holds, as often as they were counted;
- which objects can be keys and members of sets;
- sorting sets and dictionaries.

Does not own: the instructions that built the object.
-/

namespace MetricIntake.Pickle.Resolution

/-- A value and whether it can be a key. -/
structure Resolved where
  value : Value
  hashable : Bool
deriving Repr

/-- A leaf of the tree, which can be a key. -/
def leaf (memo : Memo) (value : Value) : Except ConversionFault (Resolved × Memo) :=
  .ok (⟨value, true⟩, memo)

def integerValue (number : Int) : Value :=
  if Literal.fitsInt64 number then .signed (Int64.ofInt number) else .bigInteger number

def requireKey (resolved : Resolved) : Except ConversionFault Value :=
  if resolved.hashable then .ok resolved.value else .error .unhashable

/-- The memo after an entry was taken out and one reference to it was used: the entry comes back
while there are more. -/
def putBack (memo : Memo) (id : Nat) (entry : MemoEntry) : Memo :=
  let left := entry.references - 1
  if 0 < left then memo.insert id { entry with references := left } else memo

mutual

/-- The value of an object. An entry of the memo is taken out while it is visited, so that no
object contains itself; `depth` bounds how many entries can be out at the same time, and is no
bound at all when it starts as the size of the memo. -/
def resolve (depth : Nat) (memo : Memo) (object : Object) :
    Except ConversionFault (Resolved × Memo) :=
  match object with
  | .null => leaf memo .null
  | .bool truth => leaf memo (.bool truth)
  | .int number => leaf memo (.signed number)
  | .long number => leaf memo (integerValue number)
  | .float number => leaf memo (.float number)
  | .bytes content => leaf memo (.bytes content)
  | .text content => leaf memo (.text content)
  | .function _ => .error .unresolvedFunction
  | .list items => do
      let (resolved, memo) ← resolveAll depth memo items
      return (⟨.list (resolved.map (·.value)), false⟩, memo)
  | .tuple items => do
      let (resolved, memo) ← resolveAll depth memo items
      return (⟨.tuple (resolved.map (·.value)), resolved.all (·.hashable)⟩, memo)
  | .set items => do
      let (keys, memo) ← resolveKeys depth memo items
      return (⟨.set (KeyOrder.sortedSet keys), false⟩, memo)
  | .frozenSet items => do
      let (keys, memo) ← resolveKeys depth memo items
      return (⟨.set (KeyOrder.sortedSet keys), true⟩, memo)
  | .dict entries => do
      let (resolved, memo) ← resolveEntries depth memo entries
      return (⟨.dict (KeyOrder.sortedDict resolved), false⟩, memo)
  | .memoRef id =>
      match memo.find? id with
      | none => .error .recursive
      | some entry =>
          match depth with
          | 0 => .error .recursive
          | depth + 1 => do
              let (resolved, memo) ← resolve depth (memo.erase id) entry.object
              return (resolved, putBack memo id entry)
termination_by (depth, sizeOf object)

/-- The values of some objects, one after the other. -/
def resolveAll (depth : Nat) (memo : Memo) (items : List Object) :
    Except ConversionFault (List Resolved × Memo) :=
  match items with
  | [] => .ok ([], memo)
  | item :: rest => do
      let (first, memo) ← resolve depth memo item
      let (others, memo) ← resolveAll depth memo rest
      return (first :: others, memo)
termination_by (depth, sizeOf items)

/-- The values of some members of a set, each of which must be able to be a key. -/
def resolveKeys (depth : Nat) (memo : Memo) (items : List Object) :
    Except ConversionFault (List Value × Memo) :=
  match items with
  | [] => .ok ([], memo)
  | item :: rest => do
      let (first, memo) ← resolve depth memo item
      let key ← requireKey first
      let (others, memo) ← resolveKeys depth memo rest
      return (key :: others, memo)
termination_by (depth, sizeOf items)

/-- The values of some entries of a dictionary. Each key is checked before its value is visited. -/
def resolveEntries (depth : Nat) (memo : Memo) (entries : List (Object × Object)) :
    Except ConversionFault (List (Value × Value) × Memo) :=
  match entries with
  | [] => .ok ([], memo)
  | (key, value) :: rest => do
      let (first, memo) ← resolve depth memo key
      let key ← requireKey first
      let (held, memo) ← resolve depth memo value
      let (others, memo) ← resolveEntries depth memo rest
      return ((key, held.value) :: others, memo)
termination_by (depth, sizeOf entries)

end

def valueOf (memo : Memo) (object : Object) : Except ConversionFault Value := do
  let (resolved, _) ← resolve memo.size memo object
  return resolved.value

end MetricIntake.Pickle.Resolution
