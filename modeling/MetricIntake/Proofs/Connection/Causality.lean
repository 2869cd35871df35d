import MetricIntake.Proofs.Connection.Digest
import MetricIntake.Proofs.Pipeline.Run

/-!
Contract: what a connection has done does not depend on what comes later, and a connection that has
stopped for good looks at nothing more.

Owns:
- the calls for a frame that no further byte can change, and those for which bytes are wanting;
- the digest of a stream that goes on;
- the logs of a connection on a stream and on a longer one, and all that it does where it stopped
  for another reason than the end of the bytes.

Does not own: what a connection makes of a stream that waits or fails.
-/

set_option autoImplicit false

namespace MetricIntake

/-! ### One call -/

/-- Either a call is settled by the bytes that are there, whatever follows them, or the stream ends
within what the call still needs. -/
theorem Frame.parse_append_cases (maxLength : Nat) (bytes : Bytes) :
    (∃ result left, ∀ more,
        parse maxLength some (bytes ++ more) = (some result, left ++ more)) ∨
      ∃ phase left, parse maxLength some bytes = (some (Phase.closed phase), left) := by
  -- Neither the size of a read nor its time limit matters to a parser.
  have meets := Phase.settle_meets ⟨maxLength, 1, none⟩ some (.header bytes)
  cases demand : Phase.settle ⟨maxLength, 1, none⟩ (.header bytes) with
  | read phase atMost =>
      rw [demand] at meets
      have starved : parse maxLength some (bytes ++ []) = (some phase.closed, phase.kept) :=
        meets.2.2
      rw [List.append_nil] at starved
      exact .inr ⟨phase, phase.kept, starved⟩
  | done result left =>
      rw [demand] at meets
      exact .inl ⟨result, left, meets⟩

namespace Connection

theorem uptake_closed (decoder : Decoder) (phase : Frame.Phase) :
    ∃ stop, uptake decoder phase.closed = .inr stop ∧ stop.isStarved = true := by
  cases phase with
  | header held => cases held <;> exact ⟨_, rfl, rfl⟩
  | marker length held => exact ⟨_, rfl, rfl⟩
  | body length held => exact ⟨_, rfl, rfl⟩

/-! ### Digests of longer streams -/

/-- **The digest of a stream goes on** with that of a longer one, and a digest that stops for another
reason than the end of the bytes is that of every longer stream. -/
theorem digest_append (maxLength : Nat) (decoder : Decoder) (bytes more : Bytes) :
    (digest maxLength decoder bytes).batches <+:
        (digest maxLength decoder (bytes ++ more)).batches ∧
      ((digest maxLength decoder bytes).stop.isStarved = false →
        digest maxLength decoder (bytes ++ more) = digest maxLength decoder bytes) := by
  rcases Frame.parse_append_cases maxLength bytes with
    ⟨result, left, settled⟩ | ⟨phase, left, starved⟩
  · have parsed := settled []
    rw [List.append_nil, List.append_nil] at parsed
    cases taken : uptake decoder result with
    | inl items =>
        have shorter : left.length < bytes.length := by
          obtain ⟨payload, rfl, -⟩ := uptake_eq_batch taken
          exact Frame.length_lt_of_parse_frame parsed
        obtain ⟨continues, stays⟩ := digest_append maxLength decoder left more
        rw [digest_batch parsed taken, digest_batch (settled more) taken]
        refine ⟨(List.prefix_cons_inj items).mpr continues, fun final => ?_⟩
        rw [stays final]
    | inr stop =>
        rw [digest_stop parsed taken, digest_stop (settled more) taken]
        exact ⟨List.prefix_rfl, fun _ => rfl⟩
  · obtain ⟨stop, taken, wanting⟩ := uptake_closed decoder phase
    rw [digest_stop starved taken]
    refine ⟨List.nil_prefix, fun final => ?_⟩
    rw [wanting] at final
    simp at final
termination_by bytes.length

end Connection

/-! ### The effects on a pipeline -/

namespace Pipeline

/-- Batches only add to the logs. -/
theorem processBatches_prefix (config : Config) (pipeline : Pipeline)
    {batches longer : List (List Value)} (continues : batches <+: longer) :
    (pipeline.processBatches config batches).dispatched.toList <+:
        (pipeline.processBatches config longer).dispatched.toList ∧
      (pipeline.processBatches config batches).quarantined.toList <+:
        (pipeline.processBatches config longer).quarantined.toList := by
  obtain ⟨later, rfl⟩ := continues
  obtain ⟨gains, -⟩ := processBatches_gains config (pipeline.processBatches config batches) later
  have resumed : pipeline.processBatches config (batches ++ later) =
      (pipeline.processBatches config batches).processBatches config later := List.foldl_append
  rw [resumed]
  exact ⟨⟨_, gains.dispatched.symm⟩, ⟨_, gains.quarantined.symm⟩⟩

end Pipeline

namespace Connection

/-- **A connection is causal and stops for good.** On a longer stream, cut in whatever other way, it
passes on and quarantines first what it did on the shorter one. Where it stopped on the shorter
stream for another reason than the end of the bytes, it comes to the same result on the longer one
and leaves the same pipeline behind. What it stopped for says what it came to. -/
theorem run_causal (config : Config) (decoder : Decoder) (pipeline : Pipeline)
    (bytes more : Bytes) (cuts longerCuts : List Nat) :
    let taken := digest config.maxFrameLength decoder bytes
    let short := run config decoder pipeline ⟨bytes, cuts, .closed⟩
    let long := run config decoder pipeline ⟨bytes ++ more, longerCuts, .closed⟩
    short.1 = some (taken.stop.result (ConnectionStats.zero.addAll taken.batches)) ∧
      short.2.dispatched.toList <+: long.2.dispatched.toList ∧
      short.2.quarantined.toList <+: long.2.quarantined.toList ∧
      (taken.stop.isStarved = false → long = short) := by
  intro taken short long
  have shortDigest : short = _ := run_eq_digest config decoder pipeline bytes cuts
  have longDigest : long = _ := run_eq_digest config decoder pipeline (bytes ++ more) longerCuts
  obtain ⟨continues, stays⟩ := digest_append config.maxFrameLength decoder bytes more
  obtain ⟨dispatched, quarantined⟩ := Pipeline.processBatches_prefix config pipeline continues
  rw [shortDigest, longDigest]
  refine ⟨rfl, dispatched, quarantined, fun final => ?_⟩
  rw [stays final]

/-- After a payload without the marker a well-formed frame changes nothing. -/
theorem run_causal_unmarked :
    (digest Config.default.maxFrameLength .pickle [0, 0, 0, 3, 1, 2, 3]).stop =
        .frame (.invalidMarker [1, 2, 3]) ∧
      run Config.default .pickle .initial
          ⟨[0, 0, 0, 3, 1, 2, 3] ++ Frame.encode [128, 2, 93, 46], [2], .closed⟩ =
        run Config.default .pickle .initial ⟨[0, 0, 0, 3, 1, 2, 3], [], .closed⟩ := by
  have stopped : (digest Config.default.maxFrameLength .pickle [0, 0, 0, 3, 1, 2, 3]).stop =
      .frame (.invalidMarker [1, 2, 3]) := by decide +kernel
  obtain ⟨-, -, -, final⟩ := run_causal Config.default .pickle .initial [0, 0, 0, 3, 1, 2, 3]
    (Frame.encode [128, 2, 93, 46]) [] [2]
  exact ⟨stopped, final (by rw [stopped]; rfl)⟩

end Connection

end MetricIntake
