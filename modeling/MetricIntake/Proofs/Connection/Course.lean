import MetricIntake.Proofs.Connection.Digest

/-!
Contract: the course of a connection, on a stream that may end in any way.

Owns:
- the streams on which every read comes to something in the end;
- the course of a connection: frames that are batches, and then the call for a frame that stops it;
- that a connection on such a stream has a course, takes up the batches of it and no more, and comes
  to the result of the way in which it stops.

Does not own: what a server makes of the result.
-/

set_option autoImplicit false

namespace MetricIntake

/-! ### Streams that come to an end -/

/-- Whether every read comes to something in the end: the stream is closed, or it fails, or the reader
does not wait for it without bound. -/
def Frame.Ending.settles (readTimeout : Option Span) : Ending → Bool
  | .pending => false
  | .closed => true
  | .failed _ => true
  | .silent => readTimeout.isSome

theorem Frame.Reader.exhausted_ne_none {limits : Limits} {source : Source}
    (settles : source.ending.settles limits.readTimeout = true) (phase : Phase) :
    (exhausted limits phase source).1 ≠ none := by
  unfold exhausted
  cases ending : source.ending with
  | pending => simp [ending, Ending.settles] at settles
  | closed => simp
  | failed message => simp
  | silent =>
      cases timeout : limits.readTimeout with
      | none => simp [ending, timeout, Ending.settles] at settles
      | some limit => simp

/-- A call for a frame on such a stream gives a result, and leaves such a stream. -/
theorem Frame.Reader.next_settles {limits : Limits} {reader : Reader}
    (settles : reader.source.ending.settles limits.readTimeout = true) :
    ∃ result after, reader.next limits = (some result, after) ∧
      after.source.ending.settles limits.readTimeout = true := by
  have answers : (reader.next limits).1 ≠ none := by
    fun_induction next limits reader with
    | case1 reader result left settled => simp
    | case2 reader phase atMost settled empty => exact exhausted_ne_none settles phase
    | case3 reader phase atMost settled chunk source given inductionHypothesis =>
        rw [← Source.read?_ending given] at settles
        exact inductionHypothesis settles
  obtain ⟨result, answered⟩ := Option.ne_none_iff_exists'.mp answers
  refine ⟨result, (reader.next limits).2, Prod.ext answered rfl, ?_⟩
  obtain ⟨-, waits | ⟨left, source, atRest, ending, -⟩⟩ := next_parses limits reader
  · exact absurd waits answers
  · rw [atRest]
    show source.ending.settles limits.readTimeout = true
    rw [ending]
    exact settles

namespace Connection

/-! ### Courses -/

/-- The course of a connection, from its next call for a frame on. -/
inductive Course (limits : Frame.Limits) (decoder : Decoder) :
    Frame.Reader → List (List Value) → Stop → Prop where
  /-- A frame comes whose payload is a batch, and the connection goes on. -/
  | batch {reader after : Frame.Reader} {payload : Bytes} {items : List Value}
      {batches : List (List Value)} {stop : Stop}
      (framed : reader.next limits = (some (.frame payload), after))
      (decoded : decoder.batch payload = .items items)
      (others : Course limits decoder after batches stop) :
      Course limits decoder reader (items :: batches) stop
  /-- No frame comes, or one whose payload is no batch. -/
  | stop {reader after : Frame.Reader} {result : Frame.Result} {stop : Stop}
      (called : reader.next limits = (some result, after))
      (refused : uptake decoder result = .inr stop) :
      Course limits decoder reader [] stop

/-- A connection on a stream that comes to an end has a course. -/
theorem exists_course {limits : Frame.Limits} (decoder : Decoder) (reader : Frame.Reader)
    (settles : reader.source.ending.settles limits.readTimeout = true) :
    ∃ batches stop, Course limits decoder reader batches stop := by
  obtain ⟨result, after, called, settlesAfter⟩ := Frame.Reader.next_settles settles
  cases taken : uptake decoder result with
  | inl items =>
      obtain ⟨payload, rfl, decoded⟩ := uptake_eq_batch taken
      obtain ⟨batches, stop, others⟩ := exists_course decoder after settlesAfter
      exact ⟨items :: batches, stop, .batch called decoded others⟩
  | inr stop => exact ⟨[], stop, .stop called taken⟩
termination_by reader.weight
decreasing_by exact Frame.Reader.weight_next_lt _ _ called

/-- **A connection does what its course says**: it takes up the batches, and comes to the result of
the way in which it stops. -/
theorem Course.advance_eq {config : Config} {decoder : Decoder} {reader : Frame.Reader}
    {batches : List (List Value)} {stop : Stop}
    (course : Course config.frameLimits decoder reader batches stop) (pipeline : Pipeline)
    (stats : ConnectionStats) :
    advance config decoder pipeline ⟨reader, stats⟩ =
      (.inl (stop.result (stats.addAll batches)), pipeline.processBatches config batches) := by
  induction course generalizing pipeline stats with
  | batch framed decoded others inductionHypothesis =>
      rw [advance_items pipeline framed decoded]
      exact inductionHypothesis _ _
  | stop called refused => exact advance_stop pipeline called refused

theorem Course.run_eq {config : Config} {decoder : Decoder} {source : Frame.Source}
    {batches : List (List Value)} {stop : Stop}
    (course : Course config.frameLimits decoder (.ofSource source) batches stop)
    (pipeline : Pipeline) :
    run config decoder pipeline source =
      (some (stop.result (ConnectionStats.zero.addAll batches)),
        pipeline.processBatches config batches) := by
  rw [run, ofSource, course.advance_eq]

end Connection

end MetricIntake
