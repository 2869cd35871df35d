import MetricIntake.Proofs.Observation
import MetricIntake.Proofs.Packet
import MetricIntake.Proofs.Pipeline.Judgement

/-!
Contract: when a line that is passed on is the canonical line of its item.

Owns:
- what it means for a line to be canonical: its three fields are the three texts of the item;
- the items whose passed-on lines are canonical, which are those without a blank in any text;
- an item whose line is passed on although it is not canonical.

Does not own: how many fields a line may have; that is the rule of packets.

## Where a blank passes

A line is joined without escapes and cut again at any blank, and pieces that are empty are dropped.
A blank inside one text therefore makes up for another text that is empty, and a blank at the end of
a text is dropped with no trace. In both cases three fields are left. The number of fields is the
only thing that is looked at, so such a line is passed on under a key that is not the path.
-/

set_option autoImplicit false

namespace MetricIntake

/-- A line is canonical for an observation and the packet read from it when its fields are the three
texts, the first of them is the key, and no blanks but the two between them stand in it. -/
structure Observation.IsCanonical (observation : Observation) (packet : Packet) (line : Bytes) :
    Prop where
  /-- The key is the path. -/
  key : packet.key = observation.path
  /-- The fields are the texts. -/
  fields : Packet.fields line =
    [Utf8.encode observation.path, Utf8.encode observation.value,
      Utf8.encode observation.timestamp]
  /-- The blanks are those between the texts. -/
  blanks : line.countP Packet.isBlank = 2

namespace Observation

def isUnbroken (observation : Observation) : Bool :=
  Packet.isUnbroken (Utf8.encode observation.path) &&
    Packet.isUnbroken (Utf8.encode observation.value) &&
      Packet.isUnbroken (Utf8.encode observation.timestamp)

theorem countP_line (observation : Observation) :
    observation.line.countP Packet.isBlank =
      (Utf8.encode observation.path).countP Packet.isBlank +
        (Utf8.encode observation.value).countP Packet.isBlank +
          (Utf8.encode observation.timestamp).countP Packet.isBlank + 2 := by
  have blank : Packet.isBlank space = true := rfl
  simp only [line, List.countP_append, List.countP_cons, blank, if_true]
  omega

end Observation

theorem Packet.isUnbroken_of_countP {bytes : Bytes} (none : bytes.countP Packet.isBlank = 0) :
    Packet.isUnbroken bytes = true := by
  rw [Packet.isUnbroken_iff]
  intro byte member
  simpa using List.countP_eq_zero.mp none byte member

namespace Observation

/-- Three fields of three texts without blanks are the three texts. -/
theorem fields_of_isUnbroken {observation : Observation} (unbroken : observation.isUnbroken = true)
    {first second third : Bytes}
    (shape : Packet.fields observation.line = [first, second, third]) :
    Packet.fields observation.line =
      [Utf8.encode observation.path, Utf8.encode observation.value,
        Utf8.encode observation.timestamp] := by
  simp only [isUnbroken, Bool.and_eq_true] at unbroken
  rw [fields_line, Packet.fields_of_isUnbroken unbroken.1.1,
    Packet.fields_of_isUnbroken unbroken.1.2, Packet.fields_of_isUnbroken unbroken.2] at shape ⊢
  have many := congrArg List.length shape
  by_cases path : Utf8.encode observation.path = [] <;>
    by_cases value : Utf8.encode observation.value = [] <;>
      by_cases timestamp : Utf8.encode observation.timestamp = [] <;>
        simp [path, value, timestamp] at many ⊢

/-- **A line that is a packet is canonical exactly when none of its texts holds a blank.** -/
theorem isCanonical_iff {observation : Observation} {policy : KeyPolicy} {packet : Packet}
    (read : Packet.read policy observation.line = .ok packet) :
    observation.IsCanonical packet observation.line ↔ observation.isUnbroken = true := by
  obtain ⟨keyField, valueField, timestampField, shape, decoded, -⟩ := Packet.read_eq_ok_iff.mp read
  constructor
  · intro canonical
    have blanks := canonical.blanks
    rw [countP_line] at blanks
    simp only [isUnbroken, Bool.and_eq_true]
    exact ⟨⟨Packet.isUnbroken_of_countP (by omega), Packet.isUnbroken_of_countP (by omega)⟩,
      Packet.isUnbroken_of_countP (by omega)⟩
  · intro unbroken
    have fields := fields_of_isUnbroken unbroken shape
    have key : keyField = Utf8.encode observation.path := by
      rw [shape] at fields
      simpa using congrArg List.head? fields
    refine ⟨?_, fields, ?_⟩
    · rw [key, Utf8.decode?_encode] at decoded
      exact (Option.some.inj decoded).symm
    · have blankless {bytes : Bytes} (unbroken : Packet.isUnbroken bytes = true) :
          bytes.countP Packet.isBlank = 0 := by
        rw [List.countP_eq_zero]
        intro byte member
        simp [Packet.isUnbroken_iff.mp unbroken byte member]
      simp only [isUnbroken, Bool.and_eq_true] at unbroken
      rw [countP_line, blankless unbroken.1.1, blankless unbroken.1.2, blankless unbroken.2]

end Observation

namespace Pipeline

/-- **The line that is passed on is that of the item, and it is canonical exactly when neither the
path nor a text in the place of the value or of the timestamp holds a blank.** -/
theorem dispatched_isCanonical_iff {config : Config} {pipeline after : Pipeline} {item : Value}
    {metric : Metric} (outcome : processItem config pipeline item = (.dispatched metric, after)) :
    ∃ observation packet timestamp value,
      item = Value.metricItem (.text observation.path) timestamp value ∧
        Observation.ofItem item = .ok observation ∧
        Packet.read config.policy observation.line = .ok packet ∧
        metric = ⟨observation.line, packet.value, packet.timestamp⟩ ∧
        after.dispatched = pipeline.dispatched.push metric ∧
        (observation.IsCanonical packet metric.line ↔
          (Value.text observation.path).isUnbroken = true ∧ value.isUnbroken = true ∧
            timestamp.isUnbroken = true) := by
  have judged := judge_judged config pipeline.watermarks item
  rw [processItem_eq] at outcome
  generalize judge config pipeline.watermarks item = judgement at judged outcome
  cases judged with
  | invalid unobserved => simp at outcome
  | rejected observed unread => simp at outcome
  | outOfOrder observed read ordered late => simp at outcome
  | @dispatched observation packet advanced observed read advances =>
      simp only [Prod.mk.injEq, ItemOutcome.dispatched.injEq] at outcome
      obtain ⟨rfl, rfl⟩ := outcome
      obtain ⟨timestamp, value, shape, timestampText, valueText⟩ :=
        Observation.ofItem_eq_ok_iff.mp observed
      refine ⟨observation, packet, timestamp, value, shape, observed, read, rfl, rfl, ?_⟩
      have path : (Value.text observation.path).isUnbroken =
          Packet.isUnbroken (Utf8.encode observation.path) := rfl
      rw [Observation.isCanonical_iff read, path, Observation.isUnbroken_valueText valueText,
        Observation.isUnbroken_timestampText timestampText]
      simp only [Observation.isUnbroken, Bool.and_eq_true, and_assoc]

/-- An item without blanks is passed on with its canonical line. -/
theorem dispatched_isCanonical_of_plain :
    (processItem Config.default .initial
        (Value.metricItem (.text "a.b") (.signed 5) (.text "0"))).1 =
      .dispatched ⟨[97, 46, 98, 32, 48, 32, 53], ⟨0⟩, 5⟩ ∧
    ∃ observation packet,
      Observation.ofItem (Value.metricItem (.text "a.b") (.signed 5) (.text "0")) =
          .ok observation ∧
        observation.IsCanonical packet [97, 46, 98, 32, 48, 32, 53] := by
  have passed : (processItem Config.default .initial
        (Value.metricItem (.text "a.b") (.signed 5) (.text "0"))).1 =
      .dispatched ⟨[97, 46, 98, 32, 48, 32, 53], ⟨0⟩, 5⟩ := by decide +kernel
  obtain ⟨observation, packet, timestamp, value, shape, observed, -, -, -, canonical⟩ :=
    dispatched_isCanonical_iff (Prod.ext passed rfl)
  simp only [Value.metricItem, Value.tuple.injEq, List.cons.injEq, Value.text.injEq, and_true]
    at shape
  obtain ⟨path, rfl, rfl⟩ := shape
  refine ⟨passed, observation, packet, observed, canonical.mpr ⟨?_, by decide, by decide⟩⟩
  rw [← path]
  decide

/-- **Not every line that is passed on is canonical.** The path `a 0` beside an empty value makes
three fields, and the key is `a`. -/
theorem dispatched_not_isCanonical :
    ¬ ∀ (config : Config) (pipeline after : Pipeline) (item : Value) (metric : Metric),
      processItem config pipeline item = (.dispatched metric, after) →
        ∃ observation packet, Observation.ofItem item = .ok observation ∧
          Packet.read config.policy metric.line = .ok packet ∧
          observation.IsCanonical packet metric.line := by
  intro always
  have passed : (processItem Config.default .initial
        (Value.metricItem (.text "a 0") (.signed 5) (.text ""))).1 =
      .dispatched ⟨[97, 32, 48, 32, 32, 53], ⟨0⟩, 5⟩ := by decide +kernel
  obtain ⟨observation, packet, -, -, canonical⟩ := always _ _ _ _ _ (Prod.ext passed rfl)
  have three : List.countP Packet.isBlank [97, 32, 48, 32, 32, 53] = 3 := by decide
  exact absurd (canonical.blanks.symm.trans three) (by decide)

end Pipeline

end MetricIntake
