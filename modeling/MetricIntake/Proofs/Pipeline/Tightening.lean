import MetricIntake.Proofs.Packet
import MetricIntake.Proofs.Packet.Policy
import MetricIntake.Proofs.Pipeline.Run
import MetricIntake.Proofs.Watermarks

/-!
Contract: a stricter policy takes keys away and changes nothing else.

Owns:
- the key of a metric, and whether a policy accepts it;
- lines under two policies, one stricter than the other;
- marks that agree on the keys of the stricter policy, which every item preserves;
- the log under the stricter policy, which is a part of the log under the looser one.

Does not own: what a policy demands.

## Why the marks need not agree

Under the looser policy more keys get marks. A mark is looked up and moved under its own key only, so
the marks of keys that the stricter policy refuses have no part in what becomes of the others. The two
runs are therefore compared with marks that agree on accepted keys and may differ on all others.
-/

set_option autoImplicit false

namespace MetricIntake

/-- The key of a metric is the text of the first field of its line. -/
def Metric.key? (metric : Metric) : Option String :=
  (Packet.fields metric.line).head?.bind Utf8.decode?

/-- Whether a policy accepts the key of a metric. -/
def KeyPolicy.accepts (policy : KeyPolicy) (metric : Metric) : Bool :=
  metric.key?.any fun key => policy.check key = .ok ()

namespace Packet

section TwoPolicies

variable {policy other strict loose : KeyPolicy} {line : Bytes} {packet : Packet}

theorem check_of_read (outcome : read policy line = .ok packet) :
    policy.check packet.key = .ok () := by
  obtain ⟨keyField, valueField, timestampField, shape, decoded, accepted, -⟩ :=
    read_eq_ok_iff.mp outcome
  exact accepted

/-- A policy has a say in the key alone. -/
theorem read_of_check (outcome : read policy line = .ok packet)
    (accepted : other.check packet.key = .ok ()) : read other line = .ok packet := by
  obtain ⟨keyField, valueField, timestampField, shape, decoded, -, numbers⟩ :=
    read_eq_ok_iff.mp outcome
  exact read_eq_ok_iff.mpr
    ⟨keyField, valueField, timestampField, shape, decoded, accepted, numbers⟩

/-- **A packet under a stricter policy is the same packet under a looser one.** -/
theorem read_of_isAtLeast (relaxes : strict.IsAtLeast loose)
    (outcome : read strict line = .ok packet) : read loose line = .ok packet :=
  read_of_check outcome (KeyPolicy.check_of_isAtLeast relaxes (check_of_read outcome))

theorem accepts_of_read (outcome : read policy line = .ok packet) (value : Binary64)
    (timestamp : UInt32) :
    other.accepts ⟨line, value, timestamp⟩ = true ↔ other.check packet.key = .ok () := by
  obtain ⟨keyField, valueField, timestampField, shape, decoded, -⟩ := read_eq_ok_iff.mp outcome
  simp [KeyPolicy.accepts, Metric.key?, shape, decoded]

end TwoPolicies

end Packet

/-! ### Marks -/

/-- Marks agree on the keys that a policy accepts. -/
def Watermarks.AgreeUnder (policy : KeyPolicy) (left right : Watermarks) : Prop :=
  ∀ key, policy.check key = .ok () → left.last? key = right.last? key

namespace Watermarks.AgreeUnder

variable {policy : KeyPolicy} {left right : Watermarks} {key : String}

theorem set_both (agree : AgreeUnder policy left right) (key : String) (timestamp : UInt32) :
    AgreeUnder policy (left.set key timestamp) (right.set key timestamp) := by
  intro other accepted
  rw [last?_set, last?_set, agree other accepted]

/-- A mark of a refused key changes nothing. -/
theorem set_right (agree : AgreeUnder policy left right) (refused : policy.check key ≠ .ok ())
    (timestamp : UInt32) : AgreeUnder policy left (right.set key timestamp) := by
  intro other accepted
  have differ : other ≠ key := by
    rintro rfl
    exact refused accepted
  rw [last?_set_of_ne right differ]
  exact agree other accepted

/-- A timestamp of an accepted key is refused on both sides, or moves the mark on both. -/
theorem advance (agree : AgreeUnder policy left right) (accepted : policy.check key = .ok ())
    (timestamp : UInt32) :
    (∃ error, left.advance key timestamp = .error error ∧
        right.advance key timestamp = .error error) ∨
      (left.advance key timestamp = .ok (left.set key timestamp) ∧
        right.advance key timestamp = .ok (right.set key timestamp)) := by
  unfold Watermarks.advance
  rw [agree key accepted]
  cases right.last? key with
  | none => exact .inr ⟨rfl, rfl⟩
  | some last =>
      by_cases later : last < timestamp
      · exact .inr (by simp [later])
      · exact .inl ⟨⟨timestamp, last⟩, by simp [later]⟩

end Watermarks.AgreeUnder

namespace Pipeline

variable (config : Config) {strict loose : KeyPolicy}

/-! ### One item -/

section Item

variable {narrow wide : Watermarks} {item : Value} {observation : Observation} {packet : Packet}

/-- What is passed on is the line that was read, so its key is the key of the packet. -/
theorem accepts_of_passed (observed : Observation.ofItem item = .ok observation)
    (read : Packet.read loose observation.line = .ok packet) {metric : Metric}
    (passed : (judge (config.withPolicy loose) wide item).1.metric = some metric) :
    strict.accepts metric = true ↔ strict.check packet.key = .ok () := by
  have judged := judge_judged (config.withPolicy loose) wide item
  generalize judge (config.withPolicy loose) wide item = result at judged passed
  cases judged with
  | @dispatched otherObservation otherPacket advanced otherObserved otherRead advances =>
      obtain rfl := Except.ok.inj (observed.symm.trans otherObserved)
      obtain rfl := Option.some.inj passed
      exact Packet.accepts_of_read read _ _
  | _ => cases passed

/-- An item that is read under the looser policy and refused under the stricter one is taken out, and
its mark is one that does not matter. -/
theorem judge_refused (observed : Observation.ofItem item = .ok observation)
    (read : Packet.read loose observation.line = .ok packet)
    (refused : strict.check packet.key ≠ .ok ()) (agree : narrow.AgreeUnder strict wide) :
    (judge (config.withPolicy loose) wide item).1.metric.filter strict.accepts = none ∧
      narrow.AgreeUnder strict (judge (config.withPolicy loose) wide item).2 := by
  constructor
  · cases passed : (judge (config.withPolicy loose) wide item).1.metric with
    | none => rfl
    | some metric =>
        apply Option.filter_some_neg
        rw [← Bool.not_eq_true, accepts_of_passed config observed read passed]
        exact refused
  · have judged := judge_judged (config.withPolicy loose) wide item
    generalize judge (config.withPolicy loose) wide item = result at judged
    cases judged with
    | dispatched otherObserved otherRead advances =>
        obtain rfl := Except.ok.inj (observed.symm.trans otherObserved)
        obtain rfl := Except.ok.inj (read.symm.trans otherRead)
        rcases advances with ⟨-, moved⟩ | ⟨-, rfl⟩
        · obtain ⟨-, rfl⟩ := Watermarks.advance_eq_ok_iff.mp moved
          exact agree.set_right refused packet.timestamp
        · exact agree
    | _ => exact agree

/-- An item that is read under both policies has the same outcome under both. -/
theorem judge_accepted (observed : Observation.ofItem item = .ok observation)
    (narrowRead : Packet.read strict observation.line = .ok packet)
    (wideRead : Packet.read loose observation.line = .ok packet)
    (agree : narrow.AgreeUnder strict wide) :
    (judge (config.withPolicy strict) narrow item).1 =
        (judge (config.withPolicy loose) wide item).1 ∧
      (judge (config.withPolicy strict) narrow item).2.AgreeUnder strict
        (judge (config.withPolicy loose) wide item).2 := by
  have accepted := Packet.check_of_read narrowRead
  rw [judge_of_read (config.withPolicy strict) observed narrowRead,
    judge_of_read (config.withPolicy loose) observed wideRead]
  by_cases ordered : config.validateOrder = true
  · have both (policy : KeyPolicy) : (config.withPolicy policy).validateOrder = true := ordered
    rw [if_pos (both strict), if_pos (both loose)]
    rcases agree.advance accepted packet.timestamp with ⟨error, late, alsoLate⟩ |
      ⟨moved, alsoMoved⟩
    · rw [late, alsoLate]
      exact ⟨rfl, agree⟩
    · rw [moved, alsoMoved]
      exact ⟨rfl, agree.set_both packet.key packet.timestamp⟩
  · have neither (policy : KeyPolicy) : ¬(config.withPolicy policy).validateOrder = true := ordered
    rw [if_neg (neither strict), if_neg (neither loose)]
    exact ⟨rfl, agree⟩

/-- An item that is read under neither policy has no effect under either. -/
theorem judge_unread (marks : Watermarks) {policy : KeyPolicy}
    (unread : ∀ observation, Observation.ofItem item = .ok observation →
      ∀ packet, Packet.read policy observation.line ≠ .ok packet) :
    (judge (config.withPolicy policy) marks item).1.metric = none ∧
      (judge (config.withPolicy policy) marks item).2 = marks := by
  have judged := judge_judged (config.withPolicy policy) marks item
  generalize judge (config.withPolicy policy) marks item = result at judged
  cases judged with
  | invalid unobserved => exact ⟨rfl, rfl⟩
  | rejected observed fault => exact ⟨rfl, rfl⟩
  | outOfOrder observed read ordered late => exact absurd read (unread _ observed _)
  | dispatched observed read advances => exact absurd read (unread _ observed _)

/-- **One item under two policies**: what is passed on under the stricter one is what is passed on
under the looser one, if its key is accepted, and the marks go on agreeing. -/
theorem judge_tightened (relaxes : strict.IsAtLeast loose) (agree : narrow.AgreeUnder strict wide)
    (item : Value) :
    (judge (config.withPolicy strict) narrow item).1.metric =
        (judge (config.withPolicy loose) wide item).1.metric.filter strict.accepts ∧
      (judge (config.withPolicy strict) narrow item).2.AgreeUnder strict
        (judge (config.withPolicy loose) wide item).2 := by
  by_cases readable : ∃ observation packet, Observation.ofItem item = .ok observation ∧
      Packet.read loose observation.line = .ok packet
  · obtain ⟨observation, packet, observed, wideRead⟩ := readable
    by_cases accepted : strict.check packet.key = .ok ()
    · obtain ⟨same, agrees⟩ := judge_accepted config observed
        (Packet.read_of_check wideRead accepted) wideRead agree
      refine ⟨?_, agrees⟩
      rw [same]
      cases passed : (judge (config.withPolicy loose) wide item).1.metric with
      | none => rfl
      | some metric =>
          exact (Option.filter_some_pos
            ((accepts_of_passed config observed wideRead passed).mpr accepted)).symm
    · obtain ⟨dropped, agrees⟩ := judge_refused config observed wideRead accepted agree
      have unread : ∀ other, Observation.ofItem item = .ok other →
          ∀ found, Packet.read strict other.line ≠ .ok found := by
        intro other otherObserved found narrowRead
        obtain rfl := Except.ok.inj (observed.symm.trans otherObserved)
        have same := (Packet.read_of_isAtLeast relaxes narrowRead).symm.trans wideRead
        obtain rfl := Except.ok.inj same
        exact accepted (Packet.check_of_read narrowRead)
      obtain ⟨nothing, kept⟩ := judge_unread config narrow unread
      rw [nothing, dropped, kept]
      exact ⟨rfl, agrees⟩
  · have unread (policy : KeyPolicy) (atLeast : policy.IsAtLeast loose) :
        ∀ other, Observation.ofItem item = .ok other →
          ∀ found, Packet.read policy other.line ≠ .ok found := by
      intro other observed found read
      exact readable ⟨other, found, observed, Packet.read_of_isAtLeast atLeast read⟩
    obtain ⟨narrowNothing, narrowKept⟩ :=
      judge_unread config narrow (unread strict relaxes)
    obtain ⟨wideNothing, wideKept⟩ :=
      judge_unread config wide (unread loose ⟨Nat.le_refl _, Nat.le_refl _⟩)
    rw [narrowNothing, wideNothing, narrowKept, wideKept]
    exact ⟨rfl, agree⟩

end Item

/-! ### A run -/

theorem judgeAll_tightened (relaxes : strict.IsAtLeast loose) {narrow wide : Watermarks}
    (agree : narrow.AgreeUnder strict wide) (items : List Value) :
    (judgeAll (config.withPolicy strict) narrow items).1.filterMap ItemOutcome.metric =
      ((judgeAll (config.withPolicy loose) wide items).1.filterMap ItemOutcome.metric).filter
        strict.accepts := by
  induction items generalizing narrow wide with
  | nil => rfl
  | cons item items inductionHypothesis =>
      obtain ⟨metric, agrees⟩ := judge_tightened config relaxes agree item
      have others := inductionHypothesis agrees
      simp only [judgeAll, List.filterMap_cons, metric, others]
      cases (judge (config.withPolicy loose) wide item).1.metric with
      | none => rfl
      | some passed =>
          rw [List.filter_cons]
          by_cases accepted : strict.accepts passed = true
          · rw [Option.filter_some_pos accepted, if_pos accepted]
          · rw [Option.filter_some_neg (by simpa using accepted), if_neg accepted]

/-- **Tightening the policy only removes keys.** Two pipelines whose marks say the same take up the
same items, one under a stricter policy than the other. Whatever the looser one adds to its log, the
stricter one adds the part of it whose keys its policy accepts; and a line that is a packet under
the stricter policy is the same packet under the looser one. -/
theorem processItems_tightened (relaxes : strict.IsAtLeast loose) (narrow wide : Pipeline)
    (sameMarks : ∀ key, narrow.watermarks.last? key = wide.watermarks.last? key)
    (items : List Value) :
    (∃ log,
        (processItems (config.withPolicy loose) wide items).dispatched.toList =
          wide.dispatched.toList ++ log ∧
        (processItems (config.withPolicy strict) narrow items).dispatched.toList =
          narrow.dispatched.toList ++ log.filter strict.accepts) ∧
      ∀ line packet, Packet.read strict line = .ok packet → Packet.read loose line = .ok packet := by
  constructor
  · have wideGains := (processItems_gains (config.withPolicy loose) wide items).1
    have narrowGains := (processItems_gains (config.withPolicy strict) narrow items).1
    refine ⟨_, wideGains.dispatched, ?_⟩
    rw [narrowGains.dispatched]
    congr 1
    apply judgeAll_tightened config relaxes
    intro key _
    exact sameMarks key
  · intro line packet outcome
    exact Packet.read_of_isAtLeast relaxes outcome

/-- A key with an empty node passes the looser policy and not the stricter one. The mark that it then
has stands under one policy alone, and the key beside it has the same log under both. -/
theorem processItems_tightened_emptyNode :
    let config := { Config.default with validateOrder := true }
    let loose : KeyPolicy := ⟨.medium, .medium⟩
    let strict : KeyPolicy := ⟨.strict, .medium⟩
    let taken (path : String) (time : Int64) :=
      Value.metricItem (.text path) (.signed time) (.text "1")
    let items := [taken "a..b" 9, taken "a" 3, taken "a..b" 9, taken "a" 2]
    let wide := processItems (config.withPolicy loose) .initial items
    let narrow := processItems (config.withPolicy strict) .initial items
    wide.dispatched.toList.map Metric.timestamp = [9, 3] ∧
      narrow.dispatched.toList.map Metric.timestamp = [3] ∧
      narrow.dispatched.toList = wide.dispatched.toList.filter strict.accepts := by
  intro config loose strict taken items wide narrow
  have relaxes : strict.IsAtLeast loose := ⟨by decide, by decide⟩
  obtain ⟨⟨log, wideLog, narrowLog⟩, -⟩ :=
    processItems_tightened config relaxes .initial .initial (fun _ => rfl) items
  refine ⟨by decide +kernel, by decide +kernel, ?_⟩
  show narrow.dispatched.toList = _
  rw [narrowLog]
  show log.filter strict.accepts = wide.dispatched.toList.filter strict.accepts
  rw [wideLog]
  rfl

end Pipeline

end MetricIntake
