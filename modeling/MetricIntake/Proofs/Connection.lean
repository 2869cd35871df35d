import Mathlib.Data.List.Forall2
import MetricIntake.Connection
import MetricIntake.Proofs.Frame.Delivery

/-!
Contract: a connection is a list of batches and an end.

Owns:
- the batches that a connection takes up, without any pipeline;
- what a connection does to a pipeline: it takes up these batches, one after the other, and nothing
  else;
- the statistics in the result of a connection that ends without error;
- connections on the frames of some batches, which take up these and finish.

Does not own: what a batch does to a pipeline, nor which payloads hold batches.
-/

set_option autoImplicit false

namespace MetricIntake

def ConnectionStats.addAll (stats : ConnectionStats) (batches : List (List Value)) :
    ConnectionStats :=
  batches.foldl .add stats

def Pipeline.processBatches (config : Config) (pipeline : Pipeline) (batches : List (List Value)) :
    Pipeline :=
  batches.foldl (processBatch config) pipeline

theorem ConnectionStats.addAll_eq (stats : ConnectionStats) (batches : List (List Value)) :
    stats.addAll batches =
      ⟨stats.frames + UInt64.ofNat batches.length,
        stats.items + UInt64.ofNat batches.flatten.length⟩ := by
  induction batches generalizing stats with
  | nil => simp [addAll]
  | cons items batches inductionHypothesis =>
      have frames : stats.frames + 1 + UInt64.ofNat batches.length =
          stats.frames + UInt64.ofNat (batches.length + 1) := by
        rw [UInt64.ofNat_add, UInt64.add_assoc, UInt64.add_comm 1]
        rfl
      have counted : stats.items + UInt64.ofNat items.length +
            UInt64.ofNat batches.flatten.length =
          stats.items + UInt64.ofNat (items.length + batches.flatten.length) := by
        rw [UInt64.ofNat_add, UInt64.add_assoc]
      show (stats.add items).addAll batches = _
      rw [inductionHypothesis, add, List.length_cons, List.flatten_cons, List.length_append,
        frames, counted]

namespace Connection

def batches (limits : Frame.Limits) (decoder : Decoder) (reader : Frame.Reader) :
    List (List Value) :=
  match _outcome : reader.next limits with
  | (some (.frame payload), after) =>
      match decoder.batch payload with
      | .items items => items :: batches limits decoder after
      | _ => []
  | _ => []
termination_by reader.weight
decreasing_by exact Frame.Reader.weight_next_lt _ _ _outcome

theorem batches_step (limits : Frame.Limits) (decoder : Decoder) (reader : Frame.Reader) :
    batches limits decoder reader =
      match reader.next limits with
      | (some (.frame payload), after) =>
          match decoder.batch payload with
          | .items items => items :: batches limits decoder after
          | _ => []
      | _ => [] := by
  rw [batches]
  split <;> simp_all

theorem advance_step (config : Config) (decoder : Decoder) (pipeline : Pipeline)
    (connection : Connection) :
    advance config decoder pipeline connection =
      match connection.reader.next config.frameLimits with
      | (none, reader) => (.inr { connection with reader }, pipeline)
      | (some .finished, _) => (.inl (.finished connection.stats), pipeline)
      | (some (.failed error), _) => (.inl (.failed (.frame error)), pipeline)
      | (some (.frame payload), reader) =>
          match decoder.batch payload with
          | .items items =>
              advance config decoder (pipeline.processBatch config items)
                ⟨reader, connection.stats.add items⟩
          | .failed .endOfInput => (.inl (.finished connection.stats), pipeline)
          | .failed error => (.inl (.failed (.decode error)), pipeline)
          | .panicked panic => (.inl (.panicked panic), pipeline) := by
  rw [advance]
  split
  · next reader outcome => rw [outcome]
  · next reader outcome => rw [outcome]
  · next error reader outcome => rw [outcome]
  · next payload reader outcome =>
      cases batch : decoder.batch payload with
      | items items => simp only [outcome, batch]
      | failed error => cases error <;> simp only [outcome, batch]
      | panicked panic => simp only [outcome, batch]

theorem advance_finished {config : Config} (decoder : Decoder) (pipeline : Pipeline)
    {connection : Connection}
    (ended : (connection.reader.next config.frameLimits).1 = some .finished) :
    advance config decoder pipeline connection =
      (.inl (.finished connection.stats), pipeline) := by
  rw [advance_step]
  generalize connection.reader.next config.frameLimits = outcome at ended
  obtain ⟨result, after⟩ := outcome
  obtain rfl : result = some .finished := ended
  rfl

theorem advance_items {config : Config} {decoder : Decoder} (pipeline : Pipeline)
    {connection : Connection} {payload : Bytes} {reader : Frame.Reader} {items : List Value}
    (framed : connection.reader.next config.frameLimits = (some (.frame payload), reader))
    (decoded : decoder.batch payload = .items items) :
    advance config decoder pipeline connection =
      advance config decoder (pipeline.processBatch config items)
        ⟨reader, connection.stats.add items⟩ := by
  rw [advance_step, framed]
  simp only [decoded]

/-- **A connection takes up its batches** and does nothing else to a pipeline. -/
theorem advance_pipeline (config : Config) (decoder : Decoder) (pipeline : Pipeline)
    (connection : Connection) :
    (advance config decoder pipeline connection).2 =
      pipeline.processBatches config (batches config.frameLimits decoder connection.reader) := by
  fun_induction advance config decoder pipeline connection <;>
    rw [batches_step] <;> simp_all [Pipeline.processBatches]

theorem run_pipeline (config : Config) (decoder : Decoder) (pipeline : Pipeline)
    (source : Frame.Source) :
    (run config decoder pipeline source).2 =
      pipeline.processBatches config (batches config.frameLimits decoder (.ofSource source)) := by
  have advanced := advance_pipeline config decoder pipeline (.ofSource source)
  rw [run]
  split <;> simp_all [ofSource]

/-- The statistics of a connection that ends without error are those of its batches. -/
theorem advance_stats {config : Config} {decoder : Decoder} {pipeline : Pipeline}
    {connection : Connection} {stats : ConnectionStats}
    (outcome : (advance config decoder pipeline connection).1 = .inl (.finished stats)) :
    stats = connection.stats.addAll
      (batches config.frameLimits decoder connection.reader) := by
  fun_induction advance config decoder pipeline connection <;>
    rw [batches_step] <;> simp_all [ConnectionStats.addAll]

/-! ### Delivered batches -/

/-- A payload that a connection takes up as a batch. -/
structure Delivers (config : Config) (decoder : Decoder) (payload : Bytes) (items : List Value) :
    Prop where
  admits : Frame.Admits config.maxFrameLength payload
  decoded : decoder.batch payload = .items items

section Delivered

variable {config : Config} {decoder : Decoder} {payloads : List Bytes} {batches : List (List Value)}
  (delivered : List.Forall₂ (Delivers config decoder) payloads batches)

include delivered

/-- A connection takes up the batches that are ahead, and goes on with what follows them. -/
theorem advance_encodeAll_append (pipeline : Pipeline) (stats : ConnectionStats)
    {left rest : Bytes} {source : Frame.Source}
    (ahead : left ++ source.unread = Frame.encodeAll payloads ++ rest) :
    ∃ left' source', source'.ending = source.ending ∧ left' ++ source'.unread = rest ∧
      advance config decoder pipeline ⟨.rest left source, stats⟩ =
        advance config decoder (pipeline.processBatches config batches)
          ⟨.rest left' source', stats.addAll batches⟩ := by
  induction delivered generalizing pipeline stats left source with
  | nil => exact ⟨left, source, rfl, ahead, rfl⟩
  | @cons payload items payloads batches first others inductionHypothesis =>
      have admits : Frame.Admits config.frameLimits.maxLength payload := first.admits
      rw [Frame.encodeAll, List.flatMap_cons, List.append_assoc] at ahead
      obtain ⟨left', source', framed, ending, following⟩ :=
        Frame.Reader.next_encode_append admits ahead
      rw [advance_items pipeline framed first.decoded, ← ending]
      exact inductionHypothesis (pipeline.processBatch config items) (stats.add items) following

theorem advance_ofSource (pipeline : Pipeline) {source : Frame.Source} {rest : Bytes}
    (unread : source.unread = Frame.encodeAll payloads ++ rest) :
    ∃ left source', source'.ending = source.ending ∧ left ++ source'.unread = rest ∧
      advance config decoder pipeline (.ofSource source) =
        advance config decoder (pipeline.processBatches config batches)
          ⟨.rest left source', ConnectionStats.zero.addAll batches⟩ :=
  advance_encodeAll_append delivered pipeline .zero ((List.nil_append source.unread).trans unread)

/-- **A connection on the frames of some batches** takes up these batches in their order and
finishes with their number and that of their items, however the stream is cut. -/
theorem run_encodeAll (pipeline : Pipeline) (cuts : List Nat) :
    run config decoder pipeline ⟨Frame.encodeAll payloads, cuts, .closed⟩ =
      (some (.finished (ConnectionStats.zero.addAll batches)),
        pipeline.processBatches config batches) := by
  have unread : (⟨Frame.encodeAll payloads, cuts, .closed⟩ : Frame.Source).unread =
      Frame.encodeAll payloads ++ [] := (List.append_nil _).symm
  obtain ⟨left, behind, ending, nothing, advanced⟩ := advance_ofSource delivered pipeline unread
  rw [run, advanced, advance_finished decoder _ (Frame.Reader.next_closed ending nothing)]

end Delivered

end Connection

end MetricIntake
