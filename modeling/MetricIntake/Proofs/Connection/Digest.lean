import MetricIntake.Proofs.Connection
import MetricIntake.Proofs.Frame.Codec

/-!
Contract: a connection on a closed stream is a function of the bytes of the stream.

Owns:
- the ways in which such a connection stops, the result of each, and those for want of bytes;
- the digest of some bytes: the batches taken up from them, and how the taking up stops;
- agreement of a connection with the digest of its stream, however the stream is cut.

Does not own: streams that are not closed.

## Why the way of stopping is kept

The result of a connection does not say why it stopped. A stream that is closed between two frames
and a payload that ends too early both finish the connection with its statistics, but after the
first more bytes could still have been a frame and after the second they could not.
-/

set_option autoImplicit false

namespace MetricIntake.Connection

/-- How a connection on a closed stream stops. -/
inductive Stop where
  /-- No byte is left where a frame may start. -/
  | boundary
  /-- No frame can be read. -/
  | frame (error : Frame.Error)
  /-- The payload of a frame is no batch. -/
  | decode (error : DecodeError)
  /-- The decoder of a payload panicked. -/
  | panic (payload : PanicPayload)
deriving DecidableEq, Repr

namespace Stop

/-- What a connection that stops so comes to, with the statistics of what it has taken up. -/
def result (stats : ConnectionStats) : Stop → ConnectionResult
  | .boundary => .finished stats
  | .frame error => .failed (.frame error)
  | .decode .endOfInput => .finished stats
  | .decode error => .failed (.decode error)
  | .panic payload => .panicked payload

/-- Whether bytes of the stream were wanting: none for another frame, or too few for the one that
had begun. -/
def isStarved : Stop → Bool
  | .boundary => true
  | .frame (.midHeader _) => true
  | .frame (.midFrame _ _) => true
  | _ => false

end Stop

/-- What a connection makes of the result of one call for a frame: it takes up a batch, or stops. -/
def uptake (decoder : Decoder) : Frame.Result → List Value ⊕ Stop
  | .frame payload =>
      match decoder.batch payload with
      | .items items => .inl items
      | .failed error => .inr (.decode error)
      | .panicked panic => .inr (.panic panic)
  | .failed error => .inr (.frame error)
  | .finished => .inr .boundary

theorem uptake_eq_batch {decoder : Decoder} {result : Frame.Result} {items : List Value}
    (taken : uptake decoder result = .inl items) :
    ∃ payload, result = .frame payload ∧ decoder.batch payload = .items items := by
  cases result with
  | frame payload =>
      refine ⟨payload, rfl, ?_⟩
      simp only [uptake] at taken
      split at taken
      · rename_i decoded
        rw [decoded, Sum.inl.inj taken]
      · simp at taken
      · simp at taken
  | failed error => simp [uptake] at taken
  | finished => simp [uptake] at taken

/-- What a connection takes up from the bytes of a closed stream. -/
structure Digest where
  batches : List (List Value)
  stop : Stop
deriving Repr

/-- Frame after frame is taken off, as long as each is a batch. -/
def digest (maxLength : Nat) (decoder : Decoder) (bytes : Bytes) : Digest :=
  match _outcome : Frame.parse maxLength some bytes with
  | (none, _) => ⟨[], .boundary⟩
  | (some result, left) =>
      match _taken : uptake decoder result with
      | .inl items =>
          let others := digest maxLength decoder left
          { others with batches := items :: others.batches }
      | .inr stop => ⟨[], stop⟩
termination_by bytes.length
decreasing_by
  obtain ⟨payload, rfl, -⟩ := uptake_eq_batch _taken
  exact Frame.length_lt_of_parse_frame _outcome

section Steps

variable {maxLength : Nat} {decoder : Decoder} {bytes left : Bytes} {result : Frame.Result}

theorem digest_batch {items : List Value}
    (parsed : Frame.parse maxLength some bytes = (some result, left))
    (taken : uptake decoder result = .inl items) :
    digest maxLength decoder bytes =
      ⟨items :: (digest maxLength decoder left).batches,
        (digest maxLength decoder left).stop⟩ := by
  rw [digest]
  split
  · simp_all
  · split <;> simp_all

theorem digest_stop {stop : Stop}
    (parsed : Frame.parse maxLength some bytes = (some result, left))
    (taken : uptake decoder result = .inr stop) :
    digest maxLength decoder bytes = ⟨[], stop⟩ := by
  rw [digest]
  split
  · simp_all
  · split <;> simp_all

end Steps

/-! ### Agreement -/

theorem advance_batch {config : Config} {decoder : Decoder} (pipeline : Pipeline)
    {connection : Connection} {result : Frame.Result} {reader : Frame.Reader} {items : List Value}
    (read : connection.reader.next config.frameLimits = (some result, reader))
    (taken : uptake decoder result = .inl items) :
    advance config decoder pipeline connection =
      advance config decoder (pipeline.processBatch config items)
        ⟨reader, connection.stats.add items⟩ := by
  obtain ⟨payload, rfl, decoded⟩ := uptake_eq_batch taken
  exact advance_items pipeline read decoded

theorem advance_stop {config : Config} {decoder : Decoder} (pipeline : Pipeline)
    {connection : Connection} {result : Frame.Result} {reader : Frame.Reader} {stop : Stop}
    (read : connection.reader.next config.frameLimits = (some result, reader))
    (taken : uptake decoder result = .inr stop) :
    advance config decoder pipeline connection =
      (.inl (stop.result connection.stats), pipeline) := by
  rw [advance_step, read]
  cases result with
  | frame payload =>
      simp only [uptake] at taken ⊢
      cases decoded : decoder.batch payload with
      | items items => simp [decoded] at taken
      | failed error =>
          simp only [decoded, Sum.inr.injEq] at taken
          subst taken
          cases error <;> rfl
      | panicked panic =>
          simp only [decoded, Sum.inr.injEq] at taken
          subst taken
          rfl
  | failed error =>
      obtain rfl := Sum.inr.inj taken
      rfl
  | finished =>
      obtain rfl := Sum.inr.inj taken
      rfl

theorem advance_eq_digest (config : Config) (decoder : Decoder) (pipeline : Pipeline)
    (stats : ConnectionStats) {left bytes : Bytes} {source : Frame.Source}
    (closed : source.ending = .closed) (ahead : left ++ source.unread = bytes) :
    advance config decoder pipeline ⟨.rest left source, stats⟩ =
      (.inl ((digest config.maxFrameLength decoder bytes).stop.result
          (stats.addAll (digest config.maxFrameLength decoder bytes).batches)),
        pipeline.processBatches config (digest config.maxFrameLength decoder bytes).batches) := by
  -- The induction follows the digest. The reader may be ahead of it, so what the digest looks at are
  -- the bytes that the reader holds and those that are still unread, which no read changes.
  fun_induction digest config.maxFrameLength decoder bytes
    generalizing pipeline stats left source with
  | case1 bytes after nothing =>
      exact absurd (congrArg Prod.fst nothing) (Frame.parse_some_ne_none _ _)
  | case2 bytes result after outcome items taken others inductionHypothesis =>
      obtain ⟨left', source', read, closed', rest⟩ :=
        Frame.Reader.next_of_closed config.frameLimits left closed
      rw [ahead] at read rest
      have parsed : Frame.parse config.frameLimits.maxLength some bytes = (some result, after) :=
        outcome
      rw [parsed] at read rest
      rw [advance_batch pipeline read taken]
      exact inductionHypothesis (pipeline.processBatch config items) (stats.add items) closed' rest
  | case3 bytes result after outcome stop taken =>
      obtain ⟨left', source', read, -, -⟩ :=
        Frame.Reader.next_of_closed config.frameLimits left closed
      have parsed : Frame.parse config.frameLimits.maxLength some bytes = (some result, after) :=
        outcome
      rw [ahead, parsed] at read
      exact advance_stop pipeline read taken

/-- **A connection takes up the digest of its stream**, however the stream is cut, and comes to the
result of the way in which the digest stops. -/
theorem run_eq_digest (config : Config) (decoder : Decoder) (pipeline : Pipeline) (bytes : Bytes)
    (cuts : List Nat) :
    run config decoder pipeline ⟨bytes, cuts, .closed⟩ =
      (some ((digest config.maxFrameLength decoder bytes).stop.result
          (ConnectionStats.zero.addAll (digest config.maxFrameLength decoder bytes).batches)),
        pipeline.processBatches config (digest config.maxFrameLength decoder bytes).batches) := by
  rw [run, ofSource]
  have advanced : advance config decoder pipeline ⟨.ofSource ⟨bytes, cuts, .closed⟩, .zero⟩ = _ :=
    advance_eq_digest config decoder pipeline .zero rfl (List.nil_append bytes)
  rw [advanced]

end MetricIntake.Connection
