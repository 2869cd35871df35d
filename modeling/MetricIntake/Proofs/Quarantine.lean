import Mathlib.Data.List.Induction
import Mathlib.Data.List.Nodup
import MetricIntake.Quarantine

/-!
Contract: what a store of rejections remembers of the calls that were made to it.

Owns:
- calls at instants, and the store after a sequence of them;
- the records of a store: at most as many as the limit, and one for each key;
- where each record comes from, for one call and for a whole sequence;
- when a rejection is recorded, counted or discarded.

Does not own: which records a snapshot shows, or in which order.
-/

set_option autoImplicit false

namespace MetricIntake.Quarantine

/-! ### Calls -/

/-- What is asked of a store. -/
inductive Call where
  | record (key : String) (line : Bytes) (error : String)
  | prune
  | snapshot (age : Span)

/-- A call at an instant. -/
structure Event where
  instant : Span
  call : Call

/-- Whether an event records a rejection of a key. -/
def Event.records (key : String) (event : Event) : Bool :=
  match event.call with
  | .record recorded _ _ => recorded == key
  | .prune => false
  | .snapshot _ => false

def perform (store : Quarantine) (event : Event) : Quarantine :=
  match event.call with
  | .record key line error => store.record key line error event.instant
  | .prune => store.prune event.instant
  | .snapshot age => (store.snapshot age event.instant).2

def performAll (store : Quarantine) (events : List Event) : Quarantine :=
  events.foldl perform store

@[simp] theorem performAll_nil (store : Quarantine) : store.performAll [] = store := rfl

theorem performAll_concat (store : Quarantine) (events : List Event) (event : Event) :
    store.performAll (events ++ [event]) = (store.performAll events).perform event :=
  List.foldl_concat _ _ _ _

/-! ### Records by key -/

theorem find?_eq_none_iff {store : Quarantine} {key : String} :
    store.find? key = none ↔ ∀ record ∈ store.records, record.key ≠ key := by
  simp [find?]

/-- The order in which a record is put among the others does not matter to what is stored. -/
theorem insertRecord_perm (added : BadMetric) (records : List BadMetric) :
    (insertRecord added records).Perm (added :: records) := by
  induction records with
  | nil => exact .refl _
  | cons head rest inductionHypothesis =>
      unfold insertRecord
      split
      · exact (inductionHypothesis.cons head).trans (.swap added head rest)
      · exact .refl _

/-- A store keeps to its limit and has one record for each key. -/
structure Sound (store : Quarantine) : Prop where
  bounded : store.size ≤ store.maxKeys
  distinct : (store.records.map BadMetric.key).Nodup

theorem Sound.find?_eq_some_iff {store : Quarantine} (sound : Sound store) {key : String}
    {record : BadMetric} :
    store.find? key = some record ↔ record ∈ store.records ∧ record.key = key := by
  constructor
  · intro found
    exact ⟨List.mem_of_find?_eq_some found, by simpa using List.find?_some found⟩
  · rintro ⟨stored, rfl⟩
    have found : store.find? record.key ≠ none := fun absent =>
      find?_eq_none_iff.mp absent record stored rfl
    obtain ⟨other, found⟩ := Option.ne_none_iff_exists'.mp found
    have same : other = record := List.inj_on_of_nodup_map sound.distinct
      (List.mem_of_find?_eq_some found) stored (by simpa using List.find?_some found)
    rw [found, same]

/-! ### The parts of a call -/

/-- Two stores have the same limits. -/
def SameLimits (left right : Quarantine) : Prop :=
  right.maxAge = left.maxAge ∧ right.maxKeys = left.maxKeys

theorem SameLimits.trans {before middle after : Quarantine} (earlier : SameLimits before middle)
    (later : SameLimits middle after) : SameLimits before after :=
  ⟨later.1.trans earlier.1, later.2.trans earlier.2⟩

/-- Whether a record is at most as old as an age. -/
def within (age now : Span) (record : BadMetric) : Bool :=
  (record.age now).nanoseconds ≤ age.nanoseconds

theorem Sound.dropOlder {store : Quarantine} (sound : Sound store) (age now : Span) :
    Sound (store.dropOlder age now) where
  bounded := Nat.le_trans (List.length_filter_le _ _) sound.bounded
  distinct := sound.distinct.sublist (List.filter_sublist.map _)

theorem Sound.prune {store : Quarantine} (sound : Sound store) (now : Span) :
    Sound (store.prune now) :=
  ⟨(sound.dropOlder store.maxAge now).bounded, (sound.dropOlder store.maxAge now).distinct⟩

/-- A record of the key is seen again; every other record stays as it is. -/
theorem find?_update (store : Quarantine) (key other line error : String) (now : Span) :
    (store.update key line error now).find? other =
      if other = key then (store.find? other).map (BadMetric.again · line error now)
      else store.find? other := by
  unfold update find?
  rw [List.find?_map]
  have sameKey : ((fun record : BadMetric => record.key == other) ∘ fun record =>
      if record.key = key then BadMetric.again record line error now else record) =
        fun record => record.key == other := by
    funext record
    simp only [Function.comp_apply]
    split <;> rfl
  rw [sameKey]
  cases found : store.records.find? fun record => record.key == other with
  | none => simp
  | some record =>
      have ofOther : record.key = other := by simpa using List.find?_some found
      rw [Option.map_some, ofOther]
      split <;> rfl

theorem update_keys (store : Quarantine) (key line error : String) (now : Span) :
    (store.update key line error now).records.map BadMetric.key =
      store.records.map BadMetric.key := by
  rw [update, List.map_map]
  refine List.map_congr_left fun record _ => ?_
  simp only [Function.comp_apply]
  split <;> rfl

theorem Sound.update {store : Quarantine} (sound : Sound store) (key line error : String)
    (now : Span) : Sound (store.update key line error now) where
  bounded := by
    rw [size, Quarantine.update, List.length_map]
    exact sound.bounded
  distinct := by
    rw [update_keys]
    exact sound.distinct

/-- The first record of a key. -/
def first (key line error : String) (now : Span) : BadMetric :=
  { key, lastLine := line, lastError := error, count := 1, lastSeen := now }

theorem add_of_full {store : Quarantine} (full : store.isFull = true)
    (key line error : String) (now : Span) : store.add key line error now = store :=
  if_pos full

theorem add_records {store : Quarantine} (free : store.isFull = false) (key line error : String)
    (now : Span) :
    (store.add key line error now).records.Perm (first key line error now :: store.records) := by
  rw [add, free]
  exact insertRecord_perm _ _

theorem add_limits (store : Quarantine) (key line error : String) (now : Span) :
    SameLimits store (store.add key line error now) := by
  unfold add
  split <;> exact ⟨rfl, rfl⟩

theorem Sound.add {store : Quarantine} (sound : Sound store) {key : String}
    (absent : store.find? key = none) (line error : String) (now : Span) :
    Sound (store.add key line error now) := by
  cases free : store.isFull with
  | true =>
      rw [add_of_full free]
      exact sound
  | false =>
      have added := add_records free key line error now
      constructor
      case bounded =>
        have room : store.size < store.maxKeys := by simpa [isFull] using free
        have grown : (store.add key line error now).size = store.size + 1 := added.length_eq
        rw [grown, (store.add_limits key line error now).2]
        exact room
      case distinct =>
        rw [(added.map BadMetric.key).nodup_iff, List.map_cons, List.nodup_cons]
        refine ⟨?_, sound.distinct⟩
        intro member
        obtain ⟨record, stored, ofKey⟩ := List.mem_map.mp member
        exact find?_eq_none_iff.mp absent record stored ofKey

/-! ### Recording -/

/-- The store in which a key without a record is to be added. -/
def makeRoom (store : Quarantine) (now : Span) : Quarantine :=
  if store.pruneDue now then store.prune now else store

theorem makeRoom_limits (store : Quarantine) (now : Span) :
    SameLimits store (store.makeRoom now) := by
  unfold makeRoom
  split <;> exact ⟨rfl, rfl⟩

theorem makeRoom_sublist (store : Quarantine) (now : Span) :
    (store.makeRoom now).records.Sublist store.records := by
  unfold makeRoom
  split
  · exact List.filter_sublist
  · exact .refl _

theorem Sound.makeRoom {store : Quarantine} (sound : Sound store) (now : Span) :
    Sound (store.makeRoom now) := by
  unfold Quarantine.makeRoom
  split
  · exact sound.prune now
  · exact sound

theorem makeRoom_absent {store : Quarantine} {key : String} (absent : store.find? key = none)
    (now : Span) : (store.makeRoom now).find? key = none := by
  rw [find?_eq_none_iff] at absent ⊢
  exact fun record stored => absent record ((store.makeRoom_sublist now).subset stored)

/-- **There is no room exactly when the records that need not go are as many as the limit.** -/
theorem makeRoom_isFull_iff (store : Quarantine) (now : Span) :
    (store.makeRoom now).isFull = true ↔
      store.maxKeys ≤ store.records.countP (within store.maxAge now) := by
  rw [isFull, (store.makeRoom_limits now).2, decide_eq_true_iff]
  cases due : store.pruneDue now with
  | true =>
      have pruned : (store.makeRoom now).size = store.records.countP (within store.maxAge now) := by
        rw [makeRoom, due, List.countP_eq_length_filter]
        rfl
      rw [pruned]
  | false =>
      -- A store that is not pruned is not full, and has at least as many records as need not go.
      have kept : store.makeRoom now = store := by simp [makeRoom, due]
      have free : store.size < store.maxKeys := by
        simp only [pruneDue, isFull, Bool.or_eq_false_iff, decide_eq_false_iff_not] at due
        exact Nat.not_le.mp due.1
      have live : store.records.countP (within store.maxAge now) ≤ store.size :=
        List.countP_le_length
      rw [kept]
      exact ⟨fun full => absurd full (Nat.not_le.mpr free),
        fun full => absurd (Nat.le_trans full live) (Nat.not_le.mpr free)⟩

theorem record_of_stored {store : Quarantine} {key : String} {stored : BadMetric}
    (found : store.find? key = some stored) (line : Bytes) (error : String) (now : Span) :
    store.record key line error now = store.update key (Utf8.lossy line) error now := by
  rw [record, found]

theorem record_of_absent {store : Quarantine} {key : String} (absent : store.find? key = none)
    (line : Bytes) (error : String) (now : Span) :
    store.record key line error now =
      (store.makeRoom now).add key (Utf8.lossy line) error now := by
  rw [record, absent]
  rfl

/-! ### What an event does -/

/-- Everything that an event can make of a store. -/
inductive Performed (store : Quarantine) (event : Event) : Quarantine → Prop where
  | pruned (asked : event.call = .prune) : Performed store event (store.prune event.instant)
  | shown {age : Span} (asked : event.call = .snapshot age) :
      Performed store event (store.dropOlder age event.instant)
  | counted {key : String} {line : Bytes} {error : String}
      (told : event.call = .record key line error) (stored : store.find? key ≠ none) :
      Performed store event (store.update key (Utf8.lossy line) error event.instant)
  | offered {key : String} {line : Bytes} {error : String}
      (told : event.call = .record key line error) (absent : store.find? key = none) :
      Performed store event
        ((store.makeRoom event.instant).add key (Utf8.lossy line) error event.instant)

theorem perform_performed (store : Quarantine) (event : Event) :
    Performed store event (store.perform event) := by
  unfold perform
  cases asked : event.call with
  | prune => exact .pruned asked
  | snapshot age => exact .shown asked
  | record key line error =>
      show Performed store event (store.record key line error event.instant)
      cases found : store.find? key with
      | none =>
          rw [record_of_absent found]
          exact .offered asked found
      | some stored =>
          rw [record_of_stored found]
          exact .counted asked (by simp [found])

theorem Performed.sound {store after : Quarantine} {event : Event}
    (performed : Performed store event after) (sound : Sound store) : Sound after := by
  cases performed with
  | pruned asked => exact sound.prune _
  | shown asked => exact sound.dropOlder _ _
  | counted told stored => exact sound.update _ _ _ _
  | offered told absent => exact (sound.makeRoom _).add (makeRoom_absent absent _) _ _ _

theorem Sound.performAll {store : Quarantine} (sound : Sound store) (events : List Event) :
    Sound (store.performAll events) := by
  induction events generalizing store with
  | nil => exact sound
  | cons event events inductionHypothesis =>
      exact inductionHypothesis ((perform_performed store event).sound sound)

theorem sound_create (maxAge : Span) (maxKeys : Nat) (now : Span) :
    Sound (create maxAge maxKeys now) :=
  ⟨Nat.zero_le _, List.nodup_nil⟩

theorem Performed.limits {store after : Quarantine} {event : Event}
    (performed : Performed store event after) : SameLimits store after := by
  cases performed with
  | pruned asked => exact ⟨rfl, rfl⟩
  | shown asked => exact ⟨rfl, rfl⟩
  | counted told stored => exact ⟨rfl, rfl⟩
  | offered told absent => exact (makeRoom_limits store _).trans (add_limits _ _ _ _ _)

theorem performAll_limits (store : Quarantine) (events : List Event) :
    SameLimits store (store.performAll events) := by
  induction events generalizing store with
  | nil => exact ⟨rfl, rfl⟩
  | cons event events inductionHypothesis =>
      exact (perform_performed store event).limits.trans (inductionHypothesis (store.perform event))

/-! ### Where records come from -/

/-- Where a record comes from that is stored after an event. -/
inductive Origin (store : Quarantine) (event : Event) : BadMetric → Prop where
  /-- It was stored, and the event records no rejection of its key. -/
  | kept {record : BadMetric} (stored : record ∈ store.records)
      (other : event.records record.key = false) : Origin store event record
  /-- A record of its key was stored, and the event records a rejection of the key. -/
  | again {record : BadMetric} {line : Bytes} {error : String} (stored : record ∈ store.records)
      (told : event.call = .record record.key line error) :
      Origin store event (BadMetric.again record (Utf8.lossy line) error event.instant)
  /-- No record of its key was stored, and the event records a rejection of the key. -/
  | created {key : String} {line : Bytes} {error : String} (absent : store.find? key = none)
      (told : event.call = .record key line error) :
      Origin store event (first key (Utf8.lossy line) error event.instant)

theorem records_of_call {event : Event} {key other : String} {line : Bytes} {error : String}
    (told : event.call = .record key line error) :
    event.records other = (key == other) := by
  rw [Event.records, told]

/-- An event that does not record a rejection of its key keeps a record as it is. -/
theorem Origin.of_told {store : Quarantine} {event : Event} {key : String} {line : Bytes}
    {error : String} {record : BadMetric} (told : event.call = .record key line error)
    (stored : record ∈ store.records) (other : record.key ≠ key) : Origin store event record := by
  refine .kept stored ?_
  rw [records_of_call told]
  exact beq_false_of_ne (Ne.symm other)

/-- **Every record that is stored after an event has an origin in it.** -/
theorem Performed.origin {store after : Quarantine} {event : Event}
    (performed : Performed store event after) {record : BadMetric}
    (stored : record ∈ after.records) : Origin store event record := by
  cases performed with
  | pruned asked => exact .kept (List.mem_of_mem_filter stored) (by rw [Event.records, asked])
  | shown asked => exact .kept (List.mem_of_mem_filter stored) (by rw [Event.records, asked])
  | @counted key line error told found =>
      obtain ⟨before, storedBefore, rfl⟩ := List.mem_map.mp stored
      by_cases ofKey : before.key = key
      · rw [if_pos ofKey]
        exact .again storedBefore (ofKey ▸ told)
      · rw [if_neg ofKey]
        exact .of_told told storedBefore ofKey
  | @offered key line error told absent =>
      have older {record : BadMetric} (stored : record ∈ (store.makeRoom event.instant).records) :
          Origin store event record := by
        have storedBefore := (makeRoom_sublist store event.instant).subset stored
        exact .of_told told storedBefore (find?_eq_none_iff.mp absent record storedBefore)
      cases full : (store.makeRoom event.instant).isFull with
      | true =>
          rw [add_of_full full] at stored
          exact older stored
      | false =>
          rw [(add_records full _ _ _ _).mem_iff, List.mem_cons] at stored
          rcases stored with rfl | stored
          · exact .created absent told
          · exact older stored

/-- The record of a key that was just recorded has the line of that rejection, as text. -/
theorem lastLine_of_mem_record {store : Quarantine} {key error : String} {line : Bytes} {now : Span}
    {record : BadMetric} (stored : record ∈ (store.record key line error now).records)
    (ofKey : record.key = key) : record.lastLine = Utf8.lossy line := by
  have origin := (perform_performed store ⟨now, .record key line error⟩).origin stored
  cases origin with
  | kept storedBefore other =>
      rw [records_of_call rfl, ofKey, beq_self_eq_true] at other
      cases other
  | again storedBefore told =>
      cases told
      rfl
  | created absent told =>
      cases told
      rfl

/-! ### Lives of records -/

/-- The life of the record of a key: an event that creates it, and the events since, after each of
which it is stored. -/
structure Life (start : Quarantine) (earlier : List Event) (creation : Event) (later : List Event)
    (key : String) : Prop where
  /-- No record of the key was stored before. -/
  absent : (start.performAll earlier).find? key = none
  /-- The event records a rejection of the key. -/
  creates : creation.records key = true
  /-- One is stored ever since. -/
  present : ∀ upTo, upTo <+: later →
    (start.performAll (earlier ++ creation :: upTo)).find? key ≠ none

/-- What a record tells of the events of its life. -/
structure Tells (life : List Event) (record : BadMetric) : Prop where
  /-- It counts the rejections of its key, in 64 bits. -/
  count : record.count = life.countP (Event.records record.key) % UInt64.size
  /-- Its texts and its instant are those of the latest of them. -/
  latest : ∃ line, Utf8.lossy line = record.lastLine ∧
    (life.filter (Event.records record.key)).getLast? =
      some ⟨record.lastSeen, .record record.key line record.lastError⟩

theorem Life.concat {start : Quarantine} {earlier later : List Event} {creation event : Event}
    {key : String} (life : Life start earlier creation later key)
    (stays : (start.performAll (earlier ++ creation :: (later ++ [event]))).find? key ≠ none) :
    Life start earlier creation (later ++ [event]) key where
  absent := life.absent
  creates := life.creates
  present := by
    intro upTo leading
    rcases List.prefix_concat_iff.mp leading with rfl | leading
    · exact stays
    · exact life.present upTo leading

theorem Tells.kept {life : List Event} {record : BadMetric} {event : Event}
    (tells : Tells life record) (other : event.records record.key = false) :
    Tells (life ++ [event]) record where
  count := by
    rw [tells.count, List.countP_append, List.countP_singleton, other]
    rfl
  latest := by
    rw [List.filter_append, List.filter_singleton, other]
    simpa using tells.latest

theorem Tells.again {life : List Event} {record : BadMetric} {event : Event} {line : Bytes}
    {error : String} (tells : Tells life record)
    (told : event.call = .record record.key line error) :
    Tells (life ++ [event]) (BadMetric.again record (Utf8.lossy line) error event.instant) := by
  have counted : event.records record.key = true := by
    rw [records_of_call told, beq_self_eq_true]
  constructor
  case count =>
    show (record.count + 1) % UInt64.size =
      (life ++ [event]).countP (Event.records record.key) % UInt64.size
    rw [tells.count, List.countP_append, List.countP_singleton, counted, Nat.mod_add_mod]
    rfl
  case latest =>
    refine ⟨line, rfl, ?_⟩
    show ((life ++ [event]).filter (Event.records record.key)).getLast? =
      some ⟨event.instant, .record record.key line error⟩
    rw [List.filter_append, List.filter_singleton, counted, cond_true, List.getLast?_concat, ← told]

theorem tells_first {event : Event} {key error : String} {line : Bytes}
    (told : event.call = .record key line error) :
    Tells [event] (first key (Utf8.lossy line) error event.instant) := by
  have counted : event.records key = true := by rw [records_of_call told, beq_self_eq_true]
  constructor
  case count =>
    show 1 = [event].countP (Event.records key) % UInt64.size
    rw [List.countP_singleton, counted]
    rfl
  case latest =>
    refine ⟨line, rfl, ?_⟩
    show ([event].filter (Event.records key)).getLast? =
      some ⟨event.instant, .record key line error⟩
    rw [List.filter_singleton, counted, cond_true, List.getLast?_singleton, ← told]

/-- **Every record tells of the events since it was created.** -/
theorem exists_life {start : Quarantine} (empty : start.records = []) (events : List Event)
    {record : BadMetric} (stored : record ∈ (start.performAll events).records) :
    ∃ earlier creation later, events = earlier ++ creation :: later ∧
      Life start earlier creation later record.key ∧ Tells (creation :: later) record := by
  -- From the end, because a life grows by the last event or begins with it.
  induction events using List.reverseRecOn generalizing record with
  | nil =>
      rw [performAll_nil, empty] at stored
      exact absurd stored List.not_mem_nil
  | append_singleton events event inductionHypothesis =>
      have present : (start.performAll (events ++ [event])).find? record.key ≠ none :=
        fun absent => find?_eq_none_iff.mp absent record stored rfl
      rw [performAll_concat] at stored
      cases (perform_performed _ event).origin stored with
      | kept storedBefore other =>
          obtain ⟨earlier, creation, later, rfl, life, tells⟩ := inductionHypothesis storedBefore
          rw [List.append_assoc] at present ⊢
          exact ⟨earlier, creation, later ++ [event], rfl, life.concat present, tells.kept other⟩
      | again storedBefore told =>
          obtain ⟨earlier, creation, later, rfl, life, tells⟩ := inductionHypothesis storedBefore
          rw [List.append_assoc] at present ⊢
          exact ⟨earlier, creation, later ++ [event], rfl, life.concat present, tells.again told⟩
      | created absent told =>
          refine ⟨events, event, [], rfl, ⟨absent, ?_, ?_⟩, tells_first told⟩
          · rw [records_of_call told]
            exact beq_self_eq_true _
          · intro upTo leading
            rw [List.prefix_nil.mp leading]
            exact present

/-! ### What a store remembers -/

/-- The first record of a key is found again exactly when there is room for it. -/
theorem find?_add_eq_none_iff {store : Quarantine} {key : String}
    (absent : store.find? key = none) (line error : String) (now : Span) :
    (store.add key line error now).find? key = none ↔ store.isFull = true := by
  cases full : store.isFull with
  | true => simp [add_of_full full, absent]
  | false =>
      have added : first key line error now ∈ (store.add key line error now).records :=
        (add_records full key line error now).mem_iff.mpr List.mem_cons_self
      rw [find?_eq_none_iff]
      exact ⟨fun missing => absurd rfl (missing _ added), fun never => absurd never (by decide)⟩

/-- What holds of a store after events, and of another rejection that it is asked to record. -/
structure Faithful (maxAge : Span) (maxKeys : Nat) (start : Quarantine) (events : List Event)
    (store : Quarantine) : Prop where
  /-- There are at most as many records as the limit, which is at least one. -/
  bounded : store.size ≤ max maxKeys 1
  /-- There is one record for each key. -/
  distinct : (store.records.map BadMetric.key).Nodup
  /-- Each record is found under its own key. -/
  found : ∀ record, record ∈ store.records ↔ store.find? record.key = some record
  /-- Each record tells of the events since it was created. -/
  lives : ∀ record ∈ store.records, ∃ earlier creation later,
    events = earlier ++ creation :: later ∧
      Life start earlier creation later record.key ∧ Tells (creation :: later) record
  /-- A rejection of a key with a record is always counted, and touches no other record. -/
  counts : ∀ key line error now record, store.find? key = some record →
    (store.record key line error now).find? key =
        some (BadMetric.again record (Utf8.lossy line) error now) ∧
      (∀ other ≠ key, (store.record key line error now).find? other = store.find? other) ∧
      (store.record key line error now).size = store.size
  /-- A rejection of any other key is discarded exactly when the records that are not too old are as
  many as the limit. -/
  discards : ∀ key line error now, store.find? key = none →
    ((store.record key line error now).find? key = none ↔
      max maxKeys 1 ≤ store.records.countP (within maxAge now))

/-- **A store is faithful to the calls that were made to it**, whatever they are and at whatever
instants, whether or not the clock ever goes back. -/
theorem performAll_faithful (maxAge : Span) (maxKeys : Nat) (created : Span)
    (events : List Event) :
    Faithful maxAge maxKeys (create maxAge maxKeys created) events
      ((create maxAge maxKeys created).performAll events) := by
  have sound := (sound_create maxAge maxKeys created).performAll events
  obtain ⟨sameAge, sameKeys⟩ := performAll_limits (create maxAge maxKeys created) events
  constructor
  case bounded => exact Nat.le_trans sound.bounded (Nat.le_of_eq sameKeys)
  case distinct => exact sound.distinct
  case found => exact fun record => ⟨fun stored => sound.find?_eq_some_iff.mpr ⟨stored, rfl⟩,
    fun found => (sound.find?_eq_some_iff.mp found).1⟩
  case lives => exact fun record stored => exists_life rfl events stored
  case counts =>
    intro key line error now record found
    rw [record_of_stored found]
    refine ⟨?_, fun other differs => ?_, List.length_map _⟩
    · rw [find?_update, if_pos rfl, found]
      rfl
    · rw [find?_update, if_neg differs]
  case discards =>
    intro key line error now absent
    rw [record_of_absent absent, find?_add_eq_none_iff (makeRoom_absent absent now),
      makeRoom_isFull_iff, sameAge, sameKeys]
    rfl

/-- A store with room for one key, which is full until the record of the key is too old. -/
theorem performAll_faithful_full :
    let store := (create (.ofSeconds 5) 0 ⟨0⟩).performAll
      [⟨⟨1⟩, .record "a" [97] "bad"⟩, ⟨⟨2⟩, .record "a" [98] "worse"⟩]
    store.records = [⟨"a", "b", "worse", 2, ⟨2⟩⟩] ∧
      (store.record "b" [] "bad" ⟨3⟩).find? "b" = none ∧
      (store.record "b" [] "bad" ⟨5000000003⟩).find? "b" ≠ none := by
  intro store
  have remembered : store.records = [⟨"a", "b", "worse", 2, ⟨2⟩⟩] := by decide +kernel
  have faithful := performAll_faithful (.ofSeconds 5) 0 ⟨0⟩
    [⟨⟨1⟩, .record "a" [97] "bad"⟩, ⟨⟨2⟩, .record "a" [98] "worse"⟩]
  have absent : store.find? "b" = none := by decide +kernel
  refine ⟨remembered, (faithful.discards "b" [] "bad" ⟨3⟩ absent).mpr ?_, fun discarded => ?_⟩
  · show 1 ≤ store.records.countP _
    rw [remembered]
    decide
  · have full := (faithful.discards "b" [] "bad" ⟨5000000003⟩ absent).mp discarded
    change 1 ≤ store.records.countP _ at full
    rw [remembered] at full
    exact absurd full (by decide)

end MetricIntake.Quarantine
