import MetricIntake.Proofs.Pickle.Sendable
import MetricIntake.Proofs.Pipeline.Lead
import MetricIntake.Proofs.Pipeline.Run

/-!
Contract: the batches in which a sender puts its items cannot be told from what becomes of them.

Owns:
- the payloads of batches of any items that can be sent, well-formed or not;
- what a connection on the frames of such payloads does, which is to take up the items as they are
  read back, one after the other;
- two ways of putting the same items into batches.

Does not own: what becomes of an item.
-/

set_option autoImplicit false

namespace MetricIntake

namespace Pickle

def IsBatchPayload (batch : List Value) (payload : Bytes) : Prop :=
  encode (.list batch) = .ok payload

/-- A batch has one payload. -/
theorem isBatchPayload_rightUnique : Relator.RightUnique IsBatchPayload :=
  fun _ _ _ written again => Except.ok.inj (written.symm.trans again)

/-- Batches of values that a sender can send have payloads. -/
theorem exists_payloads {batches : List (List Value)}
    (sendable : ∀ batch ∈ batches, ∀ item ∈ batch, Sendable item) :
    ∃ payloads, List.Forall₂ IsBatchPayload batches payloads := by
  induction batches with
  | nil => exact ⟨[], .nil⟩
  | cons batch batches inductionHypothesis =>
      rw [List.forall_mem_cons] at sendable
      obtain ⟨payload, written⟩ := (Sendable.list sendable.1).encode_ok
      obtain ⟨payloads, others⟩ := inductionHypothesis sendable.2
      exact ⟨payload :: payloads, .cons written others⟩

theorem delivers_batch {config : Config} {batch : List Value} {payload : Bytes}
    (sendable : ∀ item ∈ batch, Sendable item) (written : IsBatchPayload batch payload)
    (within : payload.length ≤ config.maxFrameLength ∧ payload.length ≤ Frame.greatestLength) :
    Connection.Delivers config .pickle payload (batch.map Canonical.canonical) where
  admits := ⟨hasMarker_encode written, within.1, within.2⟩
  decoded := by
    have survive := allSurvive_iff.mpr fun item member => (sendable item member).survives
    rw [batch_encode survive written, canonicalAll_eq_map]

theorem delivers_batches {config : Config} {batches : List (List Value)} {payloads : List Bytes}
    (sendable : ∀ batch ∈ batches, ∀ item ∈ batch, Sendable item)
    (written : List.Forall₂ IsBatchPayload batches payloads)
    (within : ∀ payload ∈ payloads,
      payload.length ≤ config.maxFrameLength ∧ payload.length ≤ Frame.greatestLength) :
    List.Forall₂ (Connection.Delivers config .pickle) payloads
      (batches.map (·.map Canonical.canonical)) := by
  induction written with
  | nil => exact .nil
  | cons first others inductionHypothesis =>
      rw [List.forall_mem_cons] at sendable within
      exact .cons (delivers_batch sendable.1 first within.1)
        (inductionHypothesis sendable.2 within.2)

end Pickle

namespace Pipeline

/-- A connection on the frames of batches takes up the items as they are read back, and counts the
batches. -/
theorem run_batches {config : Config} (pipeline : Pipeline) {batches : List (List Value)}
    {payloads : List Bytes} (sendable : ∀ batch ∈ batches, ∀ item ∈ batch, Pickle.Sendable item)
    (written : List.Forall₂ Pickle.IsBatchPayload batches payloads)
    (within : ∀ payload ∈ payloads,
      payload.length ≤ config.maxFrameLength ∧ payload.length ≤ Frame.greatestLength)
    (cuts : List Nat) :
    ∃ after,
      Connection.run config .pickle pipeline ⟨Frame.encodeAll payloads, cuts, .closed⟩ =
          (some (.finished ⟨UInt64.ofNat batches.length, UInt64.ofNat batches.flatten.length⟩),
            after) ∧
        Leads (Telemetry.leadIn .frames (UInt64.ofNat batches.length))
          (processItems config pipeline (batches.flatten.map Pickle.Canonical.canonical)) after := by
  have ran := Connection.run_encodeAll (Pickle.delivers_batches sendable written within) pipeline
    cuts
  have read : (batches.map (·.map Pickle.Canonical.canonical)).flatten =
      batches.flatten.map Pickle.Canonical.canonical := List.map_flatten.symm
  rw [ConnectionStats.addAll_eq, read, List.length_map, List.length_map] at ran
  simp only [ConnectionStats.zero, UInt64.zero_add] at ran
  have leads := processBatches_leads config pipeline
    (batches.map (·.map Pickle.Canonical.canonical))
  rw [read, List.length_map] at leads
  exact ⟨_, ran, leads⟩

/-- **Batches are transparent.** Items that can be sent, well-formed or not, may be put into batches
in any two ways, empty batches among them, and the streams may be cut in any way. Either connection
finishes and has the effects of taking up the items as they are read back, one after the other. What
the two leave behind differs in the number of batches and in nothing else. -/
theorem run_transparent (config : Config) (pipeline : Pipeline)
    {batches others : List (List Value)}
    (sendable : ∀ batch ∈ batches, ∀ item ∈ batch, Pickle.Sendable item)
    (same : others.flatten = batches.flatten) (cuts otherCuts : List Nat) :
    ∃ payloads otherPayloads,
      List.Forall₂ Pickle.IsBatchPayload batches payloads ∧
      List.Forall₂ Pickle.IsBatchPayload others otherPayloads ∧
      ((∀ payload ∈ payloads ++ otherPayloads,
          payload.length ≤ config.maxFrameLength ∧ payload.length ≤ Frame.greatestLength) →
        ∃ after other,
          Connection.run config .pickle pipeline ⟨Frame.encodeAll payloads, cuts, .closed⟩ =
              (some (.finished
                ⟨UInt64.ofNat batches.length, UInt64.ofNat batches.flatten.length⟩), after) ∧
            Connection.run config .pickle pipeline
                ⟨Frame.encodeAll otherPayloads, otherCuts, .closed⟩ =
              (some (.finished
                ⟨UInt64.ofNat others.length, UInt64.ofNat batches.flatten.length⟩), other) ∧
            Leads (Telemetry.leadIn .frames (UInt64.ofNat batches.length))
              (processItems config pipeline (batches.flatten.map Pickle.Canonical.canonical))
              after ∧
            AgreeButFrames after other ∧
            after.counters.frames = pipeline.counters.frames + UInt64.ofNat batches.length ∧
            other.counters.frames = pipeline.counters.frames + UInt64.ofNat others.length) := by
  have otherSendable : ∀ batch ∈ others, ∀ item ∈ batch, Pickle.Sendable item := by
    intro batch batchMember item member
    have inOthers : item ∈ others.flatten := List.mem_flatten.mpr ⟨batch, batchMember, member⟩
    rw [same] at inOthers
    obtain ⟨home, homeMember, itemMember⟩ := List.mem_flatten.mp inOthers
    exact sendable home homeMember item itemMember
  obtain ⟨payloads, written⟩ := Pickle.exists_payloads sendable
  obtain ⟨otherPayloads, otherWritten⟩ := Pickle.exists_payloads otherSendable
  refine ⟨payloads, otherPayloads, written, otherWritten, fun within => ?_⟩
  rw [List.forall_mem_append] at within
  obtain ⟨after, ran, leads⟩ := run_batches pipeline sendable written within.1 cuts
  obtain ⟨other, otherRan, otherLeads⟩ :=
    run_batches pipeline otherSendable otherWritten within.2 otherCuts
  rw [same] at otherRan otherLeads
  have counted {count : UInt64} {left : Pipeline} (leads : Leads (Telemetry.leadIn .frames count)
      (processItems config pipeline (batches.flatten.map Pickle.Canonical.canonical)) left) :
      left.counters.frames = pipeline.counters.frames + count := by
    rw [leads.counters, processItems_frames]
    rfl
  exact ⟨after, other, ran, otherRan, leads, leads.agree otherLeads, counted leads,
    counted otherLeads⟩

/-- A metric and an item that is none: in one batch, or in two with an empty one between them. -/
theorem run_transparent_split :
    ∃ after other,
      Connection.run Config.default .pickle .initial
          ⟨Frame.encodeAll [[128, 2, 93, 40, 85, 1, 97, 74, 5, 0, 0, 0, 74, 0, 0, 0, 0, 134, 134, 78,
            101, 46]], [1], .closed⟩ = (some (.finished ⟨1, 2⟩), after) ∧
        Connection.run Config.default .pickle .initial
          ⟨Frame.encodeAll [[128, 2, 93, 40, 85, 1, 97, 74, 5, 0, 0, 0, 74, 0, 0, 0, 0, 134, 134,
            101, 46], [128, 2, 93, 46], [128, 2, 93, 40, 78, 101, 46]], [], .closed⟩ =
          (some (.finished ⟨3, 2⟩), other) ∧
        after.dispatched.toList = [⟨[97, 32, 48, 32, 53], ⟨0⟩, 5⟩] ∧
        other.dispatched = after.dispatched ∧
        after.counters = ⟨2, 1, 0, 1, 1⟩ ∧ other.counters = ⟨2, 1, 0, 1, 3⟩ := by
  have sendable : ∀ batch ∈ [[Value.metricItem (.bytes [97]) (.unsigned 5) (.signed 0), .null]],
      ∀ item ∈ batch, Pickle.Sendable item := by
    have spells : Utf8.decode? [97] = some "a" := by decide +kernel
    have path : Pickle.Sendable (.bytes [97]) := .bytes (by decide) spells
    have data : Pickle.Sendable (.tuple [.unsigned 5, .signed 0]) := by
      refine .tuple ?_
      simp only [List.forall_mem_cons]
      exact ⟨.unsigned 5, .signed 0, by simp⟩
    simp only [List.forall_mem_cons]
    refine ⟨⟨.tuple ?_, .null, by simp⟩, by simp⟩
    simp only [List.forall_mem_cons]
    exact ⟨path, data, by simp⟩
  have same : [[Value.metricItem (.bytes [97]) (.unsigned 5) (.signed 0)], [], [.null]].flatten =
      [[Value.metricItem (.bytes [97]) (.unsigned 5) (.signed 0), .null]].flatten := rfl
  obtain ⟨payloads, otherPayloads, written, otherWritten, transparent⟩ :=
    run_transparent .default .initial sendable same [1] []
  obtain rfl := List.right_unique_forall₂' Pickle.isBatchPayload_rightUnique written
    (.cons rfl .nil)
  obtain rfl := List.right_unique_forall₂' Pickle.isBatchPayload_rightUnique otherWritten
    (.cons rfl (.cons rfl (.cons rfl .nil)))
  obtain ⟨after, other, ran, otherRan, leads, agree, -, otherFrames⟩ := transparent (by decide)
  have counted : after.counters = ⟨2, 1, 0, 1, 1⟩ := by
    rw [leads.counters]
    decide +kernel
  refine ⟨after, other, ran, otherRan, ?_, agree.dispatched, counted, ?_⟩
  · rw [leads.dispatched]
    decide +kernel
  · rw [agree.counters, counted, otherFrames]
    rfl

end Pipeline

end MetricIntake
