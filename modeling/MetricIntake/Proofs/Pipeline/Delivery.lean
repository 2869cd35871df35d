import MetricIntake.Proofs.Pickle.RoundTrip
import MetricIntake.Proofs.Pipeline.SampleOrder

/-!
Contract: well-formed samples arrive.

Owns:
- the payloads of batches of samples, which are taken up as the batches of their items;
- what a connection on the frames of such payloads does, from the bytes of the stream to the metrics
  passed on, the entries in quarantine and the counters.

Does not own: items that are no samples.
-/

set_option autoImplicit false

namespace MetricIntake

namespace Sample

theorem canonicalAll_items (samples : List Sample) :
    Pickle.Canonical.allSurvive (samples.map item) = true ∧
      Pickle.Canonical.canonicalAll (samples.map item) = samples.map item := by
  induction samples with
  | nil => exact ⟨rfl, rfl⟩
  | cons sample samples inductionHypothesis =>
      obtain ⟨survive, kept⟩ := inductionHypothesis
      have first : Pickle.Canonical.survives sample.item = true ∧
          Pickle.Canonical.canonical sample.item = sample.item := by
        obtain ⟨path, timestamp, quantity⟩ := sample
        cases quantity <;> exact ⟨rfl, rfl⟩
      rw [List.map_cons, Pickle.Canonical.allSurvive, Pickle.Canonical.canonicalAll, first.1,
        first.2, kept]
      exact ⟨survive, rfl⟩

def IsPayload (batch : List Sample) (payload : Bytes) : Prop :=
  Pickle.encode (.list (batch.map item)) = .ok payload

theorem delivers {config : Config} {batch : List Sample} {payload : Bytes}
    (encoded : IsPayload batch payload) (within : payload.length ≤ config.maxFrameLength)
    (sayable : payload.length ≤ Frame.greatestLength) :
    Connection.Delivers config .pickle payload (batch.map item) where
  admits := ⟨Pickle.hasMarker_encode encoded, within, sayable⟩
  decoded := by
    obtain ⟨survive, kept⟩ := canonicalAll_items batch
    rw [Pickle.batch_encode survive encoded, kept]

/-- Payloads of samples within the limits are taken up as the batches of their items. -/
theorem delivers_all {config : Config} {batches : List (List Sample)} {payloads : List Bytes}
    (encoded : List.Forall₂ IsPayload batches payloads)
    (within : ∀ payload ∈ payloads,
      payload.length ≤ config.maxFrameLength ∧ payload.length ≤ Frame.greatestLength) :
    List.Forall₂ (Connection.Delivers config .pickle) payloads (batches.map (·.map item)) := by
  induction encoded with
  | nil => exact .nil
  | @cons batch payload batches payloads first others inductionHypothesis =>
      obtain ⟨fits, sayable⟩ := within payload List.mem_cons_self
      exact .cons (delivers first fits sayable)
        (inductionHypothesis fun other member => within other (List.mem_cons_of_mem _ member))

end Sample

namespace Pipeline

/-- **Well-formed samples arrive.** -/
theorem run_delivers {config : Config} {pipeline : Pipeline}
    (fresh : pipeline.watermarks = .empty) {batches : List (List Sample)} {payloads : List Bytes}
    (acceptable : ∀ batch ∈ batches, ∀ sample ∈ batch, sample.IsAcceptable config.policy)
    (encoded : List.Forall₂ Sample.IsPayload batches payloads)
    (within : ∀ payload ∈ payloads,
      payload.length ≤ config.maxFrameLength ∧ payload.length ≤ Frame.greatestLength)
    (cuts : List Nat) :
    ∃ after,
      Connection.run config .pickle pipeline ⟨Frame.encodeAll payloads, cuts, .closed⟩ =
          (some (.finished ⟨UInt64.ofNat batches.length, UInt64.ofNat batches.flatten.length⟩),
            after) ∧
        after.dispatched.toList = pipeline.dispatched.toList ++
          (Sample.delivered config.validateOrder [] batches.flatten).map Sample.metric ∧
        after.quarantined.toList = pipeline.quarantined.toList ++
          Sample.refused config.validateOrder [] batches.flatten ∧
        after.counters.frames = pipeline.counters.frames + UInt64.ofNat batches.length ∧
        after.counters.items = pipeline.counters.items + UInt64.ofNat batches.flatten.length ∧
        after.counters.invalid = pipeline.counters.invalid ∧
        after.counters.outOfOrder = pipeline.counters.outOfOrder + UInt64.ofNat
          (Sample.refused config.validateOrder [] batches.flatten).length ∧
        after.counters.dispatched = pipeline.counters.dispatched + UInt64.ofNat
          (Sample.delivered config.validateOrder [] batches.flatten).length := by
  obtain ⟨gains, -⟩ := processBatches_gains config pipeline (batches.map (·.map Sample.item))
  have flattened : (batches.map (·.map Sample.item)).flatten =
      batches.flatten.map Sample.item := List.map_flatten.symm
  have remembers : Remembers [] Watermarks.empty := fun _ => rfl
  have allAcceptable : ∀ sample ∈ batches.flatten, sample.IsAcceptable config.policy := by
    intro sample member
    obtain ⟨batch, batchMember, sampleMember⟩ := List.mem_flatten.mp member
    exact acceptable batch batchMember sample sampleMember
  have judged := judgeAll_samples (fun _ => remembers) allAcceptable
  rw [flattened, fresh, judged] at gains
  have ran := Connection.run_encodeAll (Sample.delivers_all encoded within) pipeline cuts
  rw [ConnectionStats.addAll_eq, List.length_map, flattened, List.length_map] at ran
  obtain ⟨invalid, late⟩ := Sample.outcomes_counts config.validateOrder [] batches.flatten
  refine ⟨pipeline.processBatches config (batches.map (·.map Sample.item)), ?_, ?_, ?_, ?_, ?_, ?_,
    ?_, ?_⟩
  · rw [ran]
    simp only [ConnectionStats.zero, UInt64.zero_add]
  · rw [gains.dispatched, Sample.outcomes_metrics]
  · rw [gains.quarantined, Sample.outcomes_rejections]
  · rw [processBatches_frames, List.length_map]
  · rw [gains.itemCount, Sample.outcomes_length]
  · rw [gains.invalidCount, invalid]
    exact UInt64.add_zero _
  · rw [gains.outOfOrderCount, late]
  · rw [gains.dispatchedCount, Sample.outcomes_metrics, List.length_map]

/-- Of two samples of one path and time only the first is passed on where order matters. An empty
batch follows. -/
theorem run_delivers_first :
    ∃ after,
      Connection.run { Config.default with validateOrder := true } .pickle .initial
          ⟨Frame.encodeAll
            [[128, 2, 93, 40, 88, 1, 0, 0, 0, 97, 74, 5, 0, 0, 0, 74, 0, 0, 0, 0, 134, 134, 88, 1, 0,
              0, 0, 97, 74, 5, 0, 0, 0, 74, 1, 0, 0, 0, 134, 134, 101, 46], [128, 2, 93, 46]],
            [1, 6], .closed⟩ =
          (some (.finished ⟨2, 2⟩), after) ∧
        after.dispatched.toList = [Sample.metric ⟨"a", 5, .integer 0⟩] ∧
        after.quarantined.toList =
          [⟨"a", Sample.line ⟨"a", 5, .integer 1⟩, .order ⟨5, 5⟩⟩] := by
  obtain ⟨after, ran, delivered, refused, -⟩ := @run_delivers
    { Config.default with validateOrder := true } .initial rfl
    [[⟨"a", 5, .integer 0⟩, ⟨"a", 5, .integer 1⟩], []]
    [[128, 2, 93, 40, 88, 1, 0, 0, 0, 97, 74, 5, 0, 0, 0, 74, 0, 0, 0, 0, 134, 134, 88, 1, 0, 0, 0,
      97, 74, 5, 0, 0, 0, 74, 1, 0, 0, 0, 134, 134, 101, 46], [128, 2, 93, 46]]
    (by
      have acceptable (quantity : Quantity) :
          Sample.IsAcceptable Config.default.policy ⟨"a", 5, quantity⟩ :=
        have nonempty : "a" ≠ "" := by decide
        have unbroken : Packet.isUnbroken (Utf8.encode "a") = true := by decide +kernel
        have named : Config.default.policy.check "a" = .ok () := by decide +kernel
        ⟨nonempty, unbroken, named⟩
      intro batch batchMember sample member
      rcases List.mem_pair.mp batchMember with rfl | rfl
      · rcases List.mem_pair.mp member with rfl | rfl
        · exact acceptable (.integer 0)
        · exact acceptable (.integer 1)
      · exact absurd member (List.not_mem_nil))
    (.cons rfl (.cons rfl .nil)) (by decide) [1, 6]
  exact ⟨after, ran, delivered, refused⟩

end Pipeline

end MetricIntake
