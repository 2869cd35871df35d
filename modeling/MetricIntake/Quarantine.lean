import MetricIntake.Span
import MetricIntake.Text.Utf8

/-!
Contract: the store of the latest rejection of each metric key.

Owns:
- the records, at most one for each key and at most as many as the limit;
- recording a rejection, with the pruning that makes room;
- pruning, and taking a snapshot of the recent records.

Does not own: the clock, whose present instant each operation takes, nor why a line was rejected.
-/

namespace MetricIntake

/-- The latest rejection of a key. -/
structure BadMetric where
  /-- The key; empty where no key could be found. -/
  key : String
  lastLine : String
  lastError : String
  count : Nat
  lastSeen : Span
deriving DecidableEq, Repr

def BadMetric.age (record : BadMetric) (now : Span) : Span :=
  now.since record.lastSeen

/-- The records of rejected metrics. -/
structure Quarantine where
  maxAge : Span
  maxKeys : Nat
  lastPrune : Span
  /-- The records in the order of their keys. -/
  records : List BadMetric
deriving DecidableEq, Repr

namespace Quarantine

def defaultMaxAge : Span := .ofSeconds 3600

def defaultMaxKeys : Nat := 10000

/-- No records yet. There is always room for one. -/
def create (maxAge : Span) (maxKeys : Nat) (now : Span) : Quarantine :=
  { maxAge, maxKeys := max maxKeys 1, lastPrune := now, records := [] }

def size (store : Quarantine) : Nat := store.records.length

def find? (store : Quarantine) (key : String) : Option BadMetric :=
  store.records.find? fun record => record.key == key

/-- The store without the records that are older than an age. -/
def dropOlder (store : Quarantine) (age : Span) (now : Span) : Quarantine :=
  { store with
    records := store.records.filter fun record =>
      decide ((record.age now).nanoseconds ≤ age.nanoseconds) }

def prune (store : Quarantine) (now : Span) : Quarantine :=
  { store.dropOlder store.maxAge now with lastPrune := now }

def isFull (store : Quarantine) : Bool :=
  store.maxKeys ≤ store.size

/-- Whether pruning is due before a key is added: when there is no room, or when it has not
happened for as long as records are kept. -/
def pruneDue (store : Quarantine) (now : Span) : Bool :=
  store.isFull || store.maxAge.nanoseconds ≤ (now.since store.lastPrune).nanoseconds

def insertRecord (added : BadMetric) : List BadMetric → List BadMetric
  | [] => [added]
  | head :: rest =>
      if head.key < added.key then head :: insertRecord added rest else added :: head :: rest

/-- A record after another rejection of its key, which is counted in 64 bits. -/
def BadMetric.again (record : BadMetric) (line error : String) (now : Span) : BadMetric :=
  { record with
    lastLine := line
    lastError := error
    count := (record.count + 1) % UInt64.size
    lastSeen := now }

def update (store : Quarantine) (key line error : String) (now : Span) : Quarantine :=
  { store with
    records := store.records.map fun record =>
      if record.key = key then BadMetric.again record line error now else record }

/-- Adds the first record of a key if there is room. -/
def add (store : Quarantine) (key line error : String) (now : Span) : Quarantine :=
  if store.isFull then store
  else
    { store with
      records := insertRecord
        { key, lastLine := line, lastError := error, count := 1, lastSeen := now } store.records }

/-- Records a rejection. A key that has a record always keeps it and is counted; any other key is
recorded if there is room, after pruning where that is due. -/
def record (store : Quarantine) (key : String) (line : Bytes) (error : String) (now : Span) :
    Quarantine :=
  match store.find? key with
  | some _ => store.update key (Utf8.lossy line) error now
  | none =>
      let store := if store.pruneDue now then store.prune now else store
      store.add key (Utf8.lossy line) error now

/-- Puts a record behind those that were seen later or at the same time. -/
def insertRecent (added : BadMetric) : List BadMetric → List BadMetric
  | [] => [added]
  | head :: rest =>
      if head.lastSeen.nanoseconds < added.lastSeen.nanoseconds then added :: head :: rest
      else head :: insertRecent added rest

/-- The records, the latest first, those of one instant in the order of their keys. -/
def byRecency (records : List BadMetric) : List BadMetric :=
  records.foldl (fun sorted record => insertRecent record sorted) []

/-- The records that are at most as old as an age, the latest first. Older ones are dropped. -/
def snapshot (store : Quarantine) (age : Span) (now : Span) : List BadMetric × Quarantine :=
  let kept := store.dropOlder age now
  (byRecency kept.records, kept)

/-- The diagnostic text of a store: its size and limits. -/
def inspect (store : Quarantine) : String :=
  "BadMetrics \x7b keys: " ++ Decimal.natText store.size ++ ", max_age: " ++ store.maxAge.text ++
    ", max_keys: " ++ Decimal.natText store.maxKeys ++ " \x7d"

end Quarantine

end MetricIntake
