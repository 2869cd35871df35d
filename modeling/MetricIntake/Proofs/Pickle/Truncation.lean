import MetricIntake.Proofs.Connection.Digest
import MetricIntake.Proofs.Pickle.Sendable

/-!
Contract: a payload that was cut short is the end of the input, wherever it was cut.

Owns:
- machines that run out of bytes: none of the instructions before the cut fails or stops early;
- decoding a payload that lacks bytes at its end;
- a connection on the frame of such a payload, which ends quietly and looks at nothing that follows.

Does not own: payloads that no encoder has written, and frames that were cut short themselves.
-/

set_option autoImplicit false

namespace MetricIntake

namespace Pickle

/-! ### Decoding -/

theorem Machine.run_nil (fuel : Nat) (machine : Machine) (offset : Nat) :
    run fuel machine ⟨offset, []⟩ = .error .endOfInput := by
  cases fuel <;> rfl

/-- A run that is not followed by the end of a payload runs out of input, be it whole or cut. -/
theorem Machine.Executes.runPayload_unfinished {after : Machine} {bytes short : Bytes}
    (executes : initial.Executes bytes after) (truncates : Truncates short (bytes ++ [0x2E])) :
    runPayload short = .error .endOfInput := by
  rcases truncates.append_cases with within | ⟨more, rfl, beyond⟩
  · exact executes.run_truncated _ 0 within
  · obtain rfl : more = [] := List.length_eq_zero_iff.mp (Nat.lt_one_iff.mp beyond.length_lt)
    obtain ⟨left, -, runs⟩ := executes.run_eq 0
    have whole := runs 0 []
    rw [Machine.run_nil] at whole
    rw [runPayload, List.append_nil]
    rwa [List.append_nil] at whole

/-- **A payload that was cut short is the end of the input**, neither a value nor malformed. -/
theorem decode_truncated {value : Value} {payload short : Bytes} (legible : Legible value)
    (written : encode value = .ok payload) (truncates : Truncates short payload) :
    decode short = .error .endOfInput := by
  obtain ⟨body, bodyWritten, rfl⟩ := encode_eq_ok_iff.mp written
  have starved := (payload_executes legible bodyWritten).runPayload_unfinished truncates
  rw [decode, read, starved]
  rfl

/-! ### Batches -/

/-- The start of a batch is looked at for the marker, which no cut behind it takes away. -/
theorem hasMarker_truncated {items : List Value} {payload short : Bytes}
    (written : encode (.list items) = .ok payload) (truncates : Truncates short payload)
    (looked : Frame.markerSize ≤ short.length) : Frame.hasMarker short = true := by
  obtain ⟨missing, -, rfl⟩ := truncates
  rw [← Frame.hasMarker_take, ← List.take_append_of_le_length looked, Frame.hasMarker_take]
  exact hasMarker_encode written

end Pickle

namespace Connection

/-- A payload ends a connection quietly. The connection takes up the frames before it and finishes
with them, and neither what follows nor how the stream ends makes a difference. -/
def EndsQuietly (config : Config) (decoder : Decoder) (payload : Bytes) : Prop :=
  ∀ (payloads : List Bytes) (batches : List (List Value)),
    List.Forall₂ (Delivers config decoder) payloads batches →
      ∀ (pipeline : Pipeline) (source : Frame.Source) (rest : Bytes),
        source.unread = Frame.encodeAll payloads ++ (Frame.encode payload ++ rest) →
          run config decoder pipeline source =
            (some (.finished (ConnectionStats.zero.addAll batches)),
              pipeline.processBatches config batches)

theorem endsQuietly_of_endOfInput {config : Config} {decoder : Decoder} {payload : Bytes}
    (admits : Frame.Admits config.maxFrameLength payload)
    (decoded : decoder.batch payload = .failed .endOfInput) :
    EndsQuietly config decoder payload := by
  intro payloads batches delivered pipeline source rest unread
  have limited : Frame.Admits config.frameLimits.maxLength payload := admits
  obtain ⟨left, behind, -, ahead, advanced⟩ := advance_ofSource delivered pipeline unread
  obtain ⟨left', behind', framed, -⟩ := Frame.Reader.next_encode_append limited ahead
  have taken : uptake decoder (.frame payload) = .inr (.decode .endOfInput) := by
    simp only [uptake, decoded]
  have stopped :
      advance config decoder (pipeline.processBatches config batches)
          ⟨.rest left behind, ConnectionStats.zero.addAll batches⟩ =
        (.inl (.finished (ConnectionStats.zero.addAll batches)),
          pipeline.processBatches config batches) :=
    advance_stop _ framed taken
  rw [run, advanced, stopped]

end Connection

namespace Pickle

/-- **A truncated payload is never a partial batch and never malformed.** A value that can be written
has a payload, and whatever strict prefix of it is decoded is the end of the input. Where the value
is a list and the prefix can be sent as a frame, the frame ends the connection quietly. -/
theorem Writable.truncated {value : Value} (writable : Writable value) :
    ∃ payload, encode value = .ok payload ∧
      ∀ short, Truncates short payload →
        decode short = .error .endOfInput ∧
          ∀ items, value = .list items → Frame.markerSize ≤ short.length →
            ∀ config : Config, short.length ≤ config.maxFrameLength →
              short.length ≤ Frame.greatestLength →
                Connection.EndsQuietly config Decoder.pickle short := by
  obtain ⟨payload, written⟩ := writable.encode_ok
  refine ⟨payload, written, fun short truncates => ?_⟩
  have starved := decode_truncated writable.legible written truncates
  refine ⟨starved, ?_⟩
  rintro items rfl looked config within sayable
  have marked := hasMarker_truncated written truncates looked
  refine Connection.endsQuietly_of_endOfInput ⟨marked, within, sayable⟩ ?_
  rw [Decoder.batch, Decoder.pickle, starved]
  rfl

/-- A dictionary that names a key twice, cut within the length of the key. The connection has nothing
to take up, and it neither takes the bytes that follow for a frame nor waits for the reset. -/
theorem Writable.truncated_dict :
    decode [0x80, 0x02, 0x5D, 0x28, 0x7D, 0x28, 0x58, 0x01] = .error .endOfInput ∧
      ∀ pipeline, Connection.run Config.default Decoder.pickle pipeline
          ⟨Frame.encode [0x80, 0x02, 0x5D, 0x28, 0x7D, 0x28, 0x58, 0x01] ++ [0xFF, 0xFF], [5],
            .failed "reset"⟩ =
        (some (.finished .zero), pipeline) := by
  have key : Writable (.text "a") := .text (by decide +kernel)
  have entries : Writable (.dict [(.text "a", .signed 1), (.text "a", .null)]) := by
    refine .dict (by simp) ?_ ?_
    · simp only [List.forall_mem_cons]
      exact ⟨key, key, by simp⟩
    · simp only [List.forall_mem_cons]
      exact ⟨.signed 1, .null, by simp⟩
  have writable : Writable (.list [.dict [(.text "a", .signed 1), (.text "a", .null)]]) :=
    .list (List.forall_mem_singleton.mpr entries)
  obtain ⟨payload, written, truncated⟩ := Writable.truncated writable
  have spelled : encode (.list [.dict [(.text "a", .signed 1), (.text "a", .null)]]) =
      .ok ([0x80, 0x02, 0x5D, 0x28, 0x7D, 0x28, 0x58, 0x01] ++
        [0x00, 0x00, 0x00, 0x61, 0x4A, 0x01, 0x00, 0x00, 0x00, 0x58, 0x01, 0x00, 0x00, 0x00, 0x61,
          0x4E, 0x75, 0x65, 0x2E]) := by decide +kernel
  obtain rfl := Except.ok.inj (written.symm.trans spelled)
  obtain ⟨starved, quiet⟩ := truncated _ ⟨_, by simp, rfl⟩
  refine ⟨starved, fun pipeline => ?_⟩
  exact quiet _ rfl (by decide) Config.default (by decide +kernel) (by decide +kernel) [] []
    .nil pipeline _ [0xFF, 0xFF] rfl

end Pickle

end MetricIntake
