import MetricIntake.Proofs.Quarantine

/-!
Contract: which records of a store of rejections go, and when.

Owns:
- the stores that are reached under a clock that never goes back;
- the records that pruning and recording keep, and how old a record can be when a key is added;
- the records that a snapshot shows and leaves, and their order.

Does not own: what a record tells, and what a store does under a clock that goes back.

## The invariant

Pruning is put off until it has not happened for as long as records are kept, so a record can be
older than that. It cannot be much older: every record that is stored was seen at most that long
before the last pruning. A record that the pruning kept was young enough then, and a record that
was seen after it is younger. Snapshots only take records away and do not move the last pruning.
-/

set_option autoImplicit false

namespace MetricIntake.Quarantine

/-! ### Reachable stores -/

/-- The stores that are reached by an instant: created, and called at instants that never go back. -/
inductive Reachable (maxAge : Span) (maxKeys : Nat) : (now : Span) → Quarantine → Prop where
  | created (now : Span) : Reachable maxAge maxKeys now (create maxAge maxKeys now)
  /-- Time passes. -/
  | waited {now later : Span} {store : Quarantine} (reached : Reachable maxAge maxKeys now store)
      (forward : now.nanoseconds ≤ later.nanoseconds) : Reachable maxAge maxKeys later store
  | called {now : Span} {store : Quarantine} (call : Call)
      (reached : Reachable maxAge maxKeys now store) :
      Reachable maxAge maxKeys now (store.perform ⟨now, call⟩)

/-- Records were not seen much before the last pruning, which is not yet to come. -/
structure Timely (store : Quarantine) (now : Span) : Prop where
  past : store.lastPrune.nanoseconds ≤ now.nanoseconds
  recent : ∀ record ∈ store.records,
    store.lastPrune.nanoseconds ≤ record.lastSeen.nanoseconds + store.maxAge.nanoseconds

namespace Timely

variable {store : Quarantine} {now : Span}

theorem dropOlder (timely : Timely store now) (age : Span) :
    Timely (store.dropOlder age now) now where
  past := timely.past
  recent record stored := timely.recent record (List.mem_of_mem_filter stored)

/-- Pruning leaves the records that are young enough, whatever there was before. -/
theorem prune (store : Quarantine) (now : Span) : Timely (store.prune now) now where
  past := Nat.le_refl _
  recent := by
    intro record stored
    have young : now.nanoseconds - record.lastSeen.nanoseconds ≤ store.maxAge.nanoseconds :=
      of_decide_eq_true (List.mem_filter.mp stored).2
    show now.nanoseconds ≤ record.lastSeen.nanoseconds + store.maxAge.nanoseconds
    omega

theorem makeRoom (timely : Timely store now) : Timely (store.makeRoom now) now := by
  unfold Quarantine.makeRoom
  split
  · exact .prune store now
  · exact timely

theorem update (timely : Timely store now) (key line error : String) :
    Timely (store.update key line error now) now where
  past := timely.past
  recent := by
    intro record stored
    obtain ⟨before, storedBefore, rfl⟩ := List.mem_map.mp stored
    split
    · exact Nat.le_trans timely.past (Nat.le_add_right _ _)
    · exact timely.recent before storedBefore

theorem add (timely : Timely store now) (key line error : String) :
    Timely (store.add key line error now) now := by
  cases full : store.isFull with
  | true =>
      rw [add_of_full full]
      exact timely
  | false =>
      have samePrune : (store.add key line error now).lastPrune = store.lastPrune := by
        rw [Quarantine.add, full]
        rfl
      have sameAge := (add_limits store key line error now).1
      constructor
      case past => exact samePrune ▸ timely.past
      case recent =>
        intro record stored
        rw [samePrune, sameAge]
        rw [(add_records full key line error now).mem_iff, List.mem_cons] at stored
        rcases stored with rfl | stored
        · exact Nat.le_trans timely.past (Nat.le_add_right _ _)
        · exact timely.recent record stored

theorem performed {event : Event} {after : Quarantine} (timely : Timely store event.instant)
    (performed : Performed store event after) : Timely after event.instant := by
  cases performed with
  | pruned asked => exact .prune store event.instant
  | shown asked => exact timely.dropOlder _
  | counted told stored => exact timely.update _ _ _
  | offered told absent => exact timely.makeRoom.add _ _ _

/-- **A record is at most twice as old as records are kept when a key is to be added**, whether or
not the store was pruned for it. -/
theorem age_makeRoom_le (timely : Timely store now) {record : BadMetric}
    (stored : record ∈ (store.makeRoom now).records) :
    (record.age now).nanoseconds ≤ 2 * store.maxAge.nanoseconds := by
  show now.nanoseconds - record.lastSeen.nanoseconds ≤ 2 * store.maxAge.nanoseconds
  cases due : store.pruneDue now with
  | true =>
      rw [Quarantine.makeRoom, due] at stored
      have young : now.nanoseconds - record.lastSeen.nanoseconds ≤ store.maxAge.nanoseconds :=
        of_decide_eq_true (List.mem_filter.mp stored).2
      omega
  | false =>
      rw [Quarantine.makeRoom, due] at stored
      have recent := timely.recent record stored
      simp only [pruneDue, Bool.or_eq_false_iff, decide_eq_false_iff_not] at due
      have soon : ¬store.maxAge.nanoseconds ≤ now.nanoseconds - store.lastPrune.nanoseconds := due.2
      have past := timely.past
      omega

/-- A key that was not stored leaves no older record behind, be it stored now or discarded. -/
theorem age_record_le (timely : Timely store now) {key : String}
    (absent : store.find? key = none) (line : Bytes) (error : String) {record : BadMetric}
    (stored : record ∈ (store.record key line error now).records) :
    (record.age now).nanoseconds ≤ 2 * store.maxAge.nanoseconds := by
  rw [record_of_absent absent] at stored
  cases full : (store.makeRoom now).isFull with
  | true =>
      rw [add_of_full full] at stored
      exact timely.age_makeRoom_le stored
  | false =>
      rw [(add_records full key _ error now).mem_iff, List.mem_cons] at stored
      rcases stored with rfl | stored
      · exact Nat.le_trans (Nat.le_of_eq (Nat.sub_self _)) (Nat.zero_le _)
      · exact timely.age_makeRoom_le stored

end Timely

namespace Reachable

variable {maxAge now : Span} {maxKeys : Nat} {store : Quarantine}

theorem timely (reached : Reachable maxAge maxKeys now store) : Timely store now := by
  induction reached with
  | created now => exact ⟨Nat.le_refl _, fun record stored => absurd stored List.not_mem_nil⟩
  | waited reached forward timely => exact ⟨Nat.le_trans timely.past forward, timely.recent⟩
  | @called now store call reached timely =>
      exact timely.performed (perform_performed store ⟨now, call⟩)

theorem sound (reached : Reachable maxAge maxKeys now store) : Sound store := by
  induction reached with
  | created now => exact sound_create maxAge maxKeys now
  | waited reached forward sound => exact sound
  | @called now store call reached sound => exact (perform_performed store ⟨now, call⟩).sound sound

theorem maxAge_eq (reached : Reachable maxAge maxKeys now store) : store.maxAge = maxAge := by
  induction reached with
  | created now => rfl
  | waited reached forward same => exact same
  | @called now store call reached same =>
      exact (perform_performed store ⟨now, call⟩).limits.1.trans same

end Reachable

/-! ### What stays -/

section Keeping

variable {store : Quarantine} {record : BadMetric} {now : Span}

theorem mem_prune_iff :
    record ∈ (store.prune now).records ↔
      record ∈ store.records ∧ within store.maxAge now record = true :=
  List.mem_filter

theorem mem_makeRoom (stored : record ∈ store.records)
    (young : within store.maxAge now record = true) : record ∈ (store.makeRoom now).records := by
  unfold makeRoom
  split
  · exact mem_prune_iff.mpr ⟨stored, young⟩
  · exact stored

theorem mem_add (stored : record ∈ store.records) (key line error : String) :
    record ∈ (store.add key line error now).records := by
  cases full : store.isFull with
  | true => rwa [add_of_full full]
  | false =>
      rw [(add_records full key line error now).mem_iff]
      exact List.mem_cons_of_mem _ stored

theorem mem_update (stored : record ∈ store.records) (key line error : String) :
    (if record.key = key then BadMetric.again record line error now else record) ∈
      (store.update key line error now).records :=
  List.mem_map_of_mem stored

/-- **Recording keeps the records that are young enough**; that of the recorded key is seen again. -/
theorem mem_record (stored : record ∈ store.records)
    (young : within store.maxAge now record = true) (key : String) (line : Bytes) (error : String) :
    (if record.key = key then BadMetric.again record (Utf8.lossy line) error now else record) ∈
      (store.record key line error now).records := by
  cases found : store.find? key with
  | none =>
      rw [record_of_absent found, if_neg (find?_eq_none_iff.mp found record stored)]
      exact mem_add (mem_makeRoom stored young) _ _ _
  | some _ =>
      rw [record_of_stored found]
      exact mem_update stored _ _ _

end Keeping

/-! ### Snapshots -/

/-- A list of records is in the order of a snapshot: none was seen later than one before it. -/
def LatestFirst (records : List BadMetric) : Prop :=
  records.Pairwise fun earlier later => later.lastSeen.nanoseconds ≤ earlier.lastSeen.nanoseconds

theorem insertRecent_perm (added : BadMetric) (records : List BadMetric) :
    (insertRecent added records).Perm (added :: records) := by
  induction records with
  | nil => exact .refl _
  | cons head rest inductionHypothesis =>
      unfold insertRecent
      split
      · exact .refl _
      · exact (inductionHypothesis.cons head).trans (.swap added head rest)

theorem insertRecent_latestFirst (added : BadMetric) {records : List BadMetric}
    (sorted : LatestFirst records) : LatestFirst (insertRecent added records) := by
  induction records with
  | nil => exact List.pairwise_singleton _ added
  | cons head rest inductionHypothesis =>
      obtain ⟨headLatest, restSorted⟩ := List.pairwise_cons.mp sorted
      unfold insertRecent
      split
      · rename_i earlier
        refine List.pairwise_cons.mpr ⟨fun record member => ?_, sorted⟩
        rcases List.mem_cons.mp member with rfl | member
        · exact Nat.le_of_lt earlier
        · exact Nat.le_trans (headLatest record member) (Nat.le_of_lt earlier)
      · rename_i notEarlier
        refine List.pairwise_cons.mpr ⟨fun record member => ?_, inductionHypothesis restSorted⟩
        rcases List.mem_cons.mp ((insertRecent_perm added rest).mem_iff.mp member) with rfl | member
        · exact Nat.not_lt.mp notEarlier
        · exact headLatest record member

/-- Records are put in order one by one, without loss. -/
theorem byRecency_spec (records : List BadMetric) :
    (byRecency records).Perm records ∧ LatestFirst (byRecency records) := by
  have general (records sorted : List BadMetric) (inOrder : LatestFirst sorted) :
      (records.foldl (fun sorted record => insertRecent record sorted) sorted).Perm
          (records ++ sorted) ∧
        LatestFirst (records.foldl (fun sorted record => insertRecent record sorted) sorted) := by
    induction records generalizing sorted with
    | nil => exact ⟨.refl _, inOrder⟩
    | cons record rest inductionHypothesis =>
        obtain ⟨same, after⟩ :=
          inductionHypothesis (insertRecent record sorted) (insertRecent_latestFirst record inOrder)
        have moved := ((insertRecent_perm record sorted).append_left rest).trans List.perm_middle
        exact ⟨same.trans moved, after⟩
  have whole := general records [] List.Pairwise.nil
  rwa [List.append_nil] at whole

theorem dropOlder_dropOlder (store : Quarantine) (age other now : Span) :
    (store.dropOlder age now).dropOlder other now = store.dropOlder (age.shorter other) now := by
  simp only [dropOlder, List.filter_filter, Quarantine.mk.injEq, true_and]
  refine List.filter_congr fun record _ => ?_
  rw [Bool.and_comm, ← Bool.decide_and, decide_eq_decide]
  exact Nat.le_min.symm

/-! ### Eviction -/

/-- What a store does with its records at an instant. -/
structure Evicts (maxAge now : Span) (store : Quarantine) : Prop where
  /-- Pruning keeps the records that are young enough, and no others. -/
  prunes : ∀ record, record ∈ (store.prune now).records ↔
    record ∈ store.records ∧ within maxAge now record = true
  /-- Recording keeps the records that are young enough; that of the recorded key is seen again. -/
  keeps : ∀ record ∈ store.records, within maxAge now record = true → ∀ key line error,
    (if record.key = key then BadMetric.again record (Utf8.lossy line) error now else record) ∈
      (store.record key line error now).records
  /-- Once another key was recorded or discarded, no record is more than twice as old. -/
  timely : ∀ key, store.find? key = none → ∀ line error,
    ∀ record ∈ (store.record key line error now).records,
      (record.age now).nanoseconds ≤ 2 * maxAge.nanoseconds
  /-- A snapshot shows the records that are within its age, each once, the latest first. -/
  shows : ∀ age, (store.snapshot age now).1.Perm (store.records.filter (within age now)) ∧
    (store.snapshot age now).1.Nodup ∧ LatestFirst (store.snapshot age now).1
  /-- A snapshot leaves the records that it shows, and changes nothing else. -/
  leaves : ∀ age, (store.snapshot age now).2 =
    { store with records := store.records.filter (within age now) }
  /-- A second snapshot comes to one snapshot with the shorter age. -/
  again : ∀ age other, (store.snapshot age now).2.snapshot other now =
    store.snapshot (age.shorter other) now

/-- **Eviction is safe and timely.** A store that was reached under a clock that never goes back
removes no record that is young enough, holds none that is more than twice as old once another key
was recorded or discarded, and shows and leaves in a snapshot exactly the records within the age. -/
theorem Reachable.evicts {maxAge now : Span} {maxKeys : Nat} {store : Quarantine}
    (reached : Reachable maxAge maxKeys now store) : Evicts maxAge now store := by
  obtain rfl := reached.maxAge_eq
  constructor
  case prunes => exact fun record => mem_prune_iff
  case keeps =>
    intro record stored young key line error
    exact mem_record stored young key line error
  case timely =>
    intro key absent line error record stored
    exact reached.timely.age_record_le absent line error stored
  case shows =>
    intro age
    obtain ⟨same, sorted⟩ := byRecency_spec (store.dropOlder age now).records
    have distinct := (reached.sound.dropOlder age now).distinct.of_map
    exact ⟨same, same.nodup_iff.mpr distinct, sorted⟩
  case leaves => exact fun age => rfl
  case again =>
    intro age other
    show (byRecency ((store.dropOlder age now).dropOlder other now).records,
      (store.dropOlder age now).dropOlder other now) = _
    rw [dropOlder_dropOlder]
    rfl

/-- A store that keeps records for five ticks, pruned at the fifth, holds at the ninth a record that
was seen at the third: no pruning is due when another key is recorded, and the record is kept. -/
theorem Reachable.evicts_late :
    ∃ store : Quarantine, Reachable ⟨5⟩ 2 ⟨9⟩ store ∧ store.find? "b" = none ∧
      (store.record "b" [] "" ⟨9⟩).records.map (fun record => (record.age ⟨9⟩).nanoseconds) =
        [6, 0] ∧
      ∀ record ∈ (store.record "b" [] "" ⟨9⟩).records, (record.age ⟨9⟩).nanoseconds ≤ 10 := by
  let store := ((create ⟨5⟩ 2 ⟨0⟩).perform ⟨⟨3⟩, .record "a" [] ""⟩).perform ⟨⟨5⟩, .prune⟩
  have started : Reachable ⟨5⟩ 2 ⟨3⟩ (create ⟨5⟩ 2 ⟨0⟩) := .waited (.created ⟨0⟩) (by decide)
  have recorded := Reachable.called (.record "a" [] "") started
  have reached : Reachable ⟨5⟩ 2 ⟨9⟩ store :=
    .waited (.called .prune (.waited recorded (by decide))) (by decide)
  have absent : store.find? "b" = none := by decide +kernel
  exact ⟨store, reached, absent, by decide +kernel, reached.evicts.timely "b" absent [] ""⟩

end MetricIntake.Quarantine
