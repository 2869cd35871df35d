import MetricIntake.Pickle.Object

/-!
Contract: the memo of a payload.

Owns:
- entries by number, at most one for each, with a count of the references to them;
- looking up, replacing and taking out entries.

Does not own: when references are counted.
-/

namespace MetricIntake.Pickle

/-- An object in the memo. -/
structure MemoEntry where
  object : Object
  references : Int
deriving Inhabited, Repr

/-- Numbered objects. -/
structure Memo where
  /-- The entries, each with its number. -/
  entries : List (Nat × MemoEntry)
deriving Inhabited, Repr

namespace Memo

/-- The memo without entries. -/
def empty : Memo := ⟨[]⟩

def find? (memo : Memo) (id : Nat) : Option MemoEntry :=
  (memo.entries.find? fun entry => entry.1 == id).map (·.2)

/-- The memo without a number. -/
def erase (memo : Memo) (id : Nat) : Memo :=
  ⟨memo.entries.filter fun entry => entry.1 != id⟩

/-- The memo with an entry, in the place of any entry of that number. -/
def insert (memo : Memo) (id : Nat) (entry : MemoEntry) : Memo :=
  ⟨(id, entry) :: (memo.erase id).entries⟩

def size (memo : Memo) : Nat := memo.entries.length

end Memo

end MetricIntake.Pickle
