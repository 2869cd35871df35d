import MetricIntake.Frame.Error
import MetricIntake.Frame.Limits
import MetricIntake.Frame.Source

/-!
Contract: reading frames from a stream that arrives in pieces.

Owns:
- the phases of reading a frame and what each still asks for;
- one call for the next frame, which gives a frame, the end of the stream or an error, or stays
  where it is until more bytes arrive;
- the results of successive calls, also of those after an error;
- which bytes are kept after an error: those of an incomplete header and those looked at for the
  marker are, those of an incomplete payload are not.

Does not own: the contents of frames.
-/

namespace MetricIntake.Frame

/-- How far the reading of a frame has come. The bytes held have left the stream. -/
inductive Phase where
  /-- The header is read. -/
  | header (held : Bytes)
  /-- The header said `length`; the marker is read. -/
  | marker (length : Nat) (held : Bytes)
  /-- The marker was found; the payload is read. -/
  | body (length : Nat) (held : Bytes)
deriving DecidableEq, Repr

/-- What a call for the next frame gives. -/
inductive Result where
  /-- A frame, by its payload. -/
  | frame (payload : Bytes)
  /-- The stream ended where a frame may start. -/
  | finished
  /-- No frame can be read. -/
  | failed (error : Error)
deriving DecidableEq, Repr

/-- What a phase comes to with the bytes that it holds. -/
inductive Demand where
  /-- It needs a read of at most so many bytes. -/
  | read (phase : Phase) (atMost : Nat)
  /-- It is over, and some bytes are left for the next call. -/
  | done (result : Result) (left : Bytes)
deriving DecidableEq, Repr

namespace Phase

def held : Phase → Bytes
  | .header held => held
  | .marker _ held => held
  | .body _ held => held

def receive (bytes : Bytes) : Phase → Phase
  | .header held => .header (held ++ bytes)
  | .marker length held => .marker length (held ++ bytes)
  | .body length held => .body length (held ++ bytes)

/-- The bytes that are kept for the next call when the phase fails. -/
def kept : Phase → Bytes
  | .header held => held
  | .marker _ held => held
  | .body _ _ => []

/-- The payload is complete with `length` bytes; until then a read asks for no more than a chunk. -/
def settleBody (limits : Limits) (length : Nat) (held : Bytes) : Demand :=
  if held.length < length then
    .read (.body length held) (min limits.chunk (length - held.length))
  else .done (.frame (held.take length)) (held.drop length)

/-- The marker is looked at when as many bytes are there as the payload has of them. -/
def settleMarker (limits : Limits) (length : Nat) (held : Bytes) : Demand :=
  let wanted := min markerSize length
  if held.length < wanted then .read (.marker length held) (wanted - held.length)
  else if length < markerSize ∨ hasMarker (held.take wanted) = false then
    .done (.failed (.invalidMarker (held.take wanted))) held
  else settleBody limits length held

/-- The header says the length, which must be within the limit. -/
def settleHeader (limits : Limits) (held : Bytes) : Demand :=
  if held.length < headerSize then .read (.header held) (headerSize - held.length)
  else
    let length := lengthOfHeader (held.take headerSize)
    let left := held.drop headerSize
    if limits.maxLength < length then .done (.failed (.oversized length limits.maxLength)) left
    else settleMarker limits length left

def settle (limits : Limits) : Phase → Demand
  | .header held => settleHeader limits held
  | .marker length held => settleMarker limits length held
  | .body length held => settleBody limits length held

def closed : Phase → Result
  | .header [] => .finished
  | .header held => .failed (.midHeader held.length)
  | .marker length held => .failed (.midFrame held.length length)
  | .body length held => .failed (.midFrame held.length length)

/-- A weight of a phase, which falls with every byte that leaves it and when its header is
forgotten. -/
def weight : Phase → Nat
  | .header held => 2 * held.length
  | .marker _ held => 2 * held.length + 1
  | .body _ held => 2 * held.length + 1

theorem weight_receive (phase : Phase) (bytes : Bytes) :
    (phase.receive bytes).weight = phase.weight + 2 * bytes.length := by
  cases phase <;> simp only [receive, weight, List.length_append] <;> omega

/-- A demand weighs no more than the phase that it came from, and a frame costs weight. -/
def DemandWithin (weight : Nat) : Demand → Prop
  | .read phase _ => phase.weight ≤ weight
  | .done (.frame _) left => 2 * left.length < weight
  | .done _ _ => True

private theorem settleBody_within (limits : Limits) (length : Nat) (held : Bytes) :
    DemandWithin (2 * held.length + 1) (settleBody limits length held) := by
  unfold settleBody
  split
  · simp [DemandWithin, weight]
  · simp only [DemandWithin, List.length_drop]
    omega

private theorem settleMarker_within (limits : Limits) (length : Nat) (held : Bytes) :
    DemandWithin (2 * held.length + 1) (settleMarker limits length held) := by
  simp only [settleMarker]
  split
  · simp [DemandWithin, weight]
  · split
    · simp [DemandWithin]
    · exact settleBody_within limits length held

private theorem demandWithin_mono {lower upper : Nat} {demand : Demand}
    (within : DemandWithin lower demand) (le : lower ≤ upper) : DemandWithin upper demand := by
  cases demand with
  | read phase atMost => exact Nat.le_trans within le
  | done result left => cases result <;> simp_all [DemandWithin]; omega

private theorem settleHeader_within (limits : Limits) (held : Bytes) :
    DemandWithin (2 * held.length) (settleHeader limits held) := by
  simp only [settleHeader]
  split
  · simp [DemandWithin, weight]
  · rename_i complete
    split
    · simp [DemandWithin]
    · refine demandWithin_mono (settleMarker_within limits _ _) ?_
      simp only [List.length_drop, headerSize] at *
      omega

theorem settle_within (limits : Limits) (phase : Phase) :
    DemandWithin phase.weight (phase.settle limits) := by
  cases phase with
  | header held => exact settleHeader_within limits held
  | marker length held => exact settleMarker_within limits length held
  | body length held => exact settleBody_within limits length held

end Phase

/-- A stream and how far the reading of its next frame has come. -/
structure Reader where
  /-- The phase. -/
  phase : Phase
  /-- The rest of the stream. -/
  source : Source
deriving DecidableEq, Repr

namespace Reader

def ofSource (source : Source) : Reader := ⟨.header [], source⟩

/-- A reader between two calls, with the bytes that are left from the last. -/
def rest (left : Bytes) (source : Source) : Reader := ⟨.header left, source⟩

/-- The bytes that a reader has not yet given out as part of a frame or dropped. -/
def remaining (reader : Reader) : Bytes := reader.phase.held ++ reader.source.unread

def exhausted (limits : Limits) (phase : Phase) (source : Source) : Option Result × Reader :=
  match source.ending with
  | .pending => (none, ⟨phase, source⟩)
  | .closed => (some phase.closed, rest phase.kept source)
  | .failed message => (some (.failed (.transport message)), rest phase.kept source)
  | .silent =>
      match limits.readTimeout with
      | some limit => (some (.failed (.timeout limit)), rest phase.kept source)
      | none => (none, ⟨phase, source⟩)

/-- The next frame, the end or an error; nothing where more bytes may still arrive. -/
def next (limits : Limits) (reader : Reader) : Option Result × Reader :=
  match reader.phase.settle limits with
  | .done result left => (some result, rest left reader.source)
  | .read phase atMost =>
      match _outcome : reader.source.read? atMost with
      | none => exhausted limits phase reader.source
      | some (chunk, source) => next limits ⟨phase.receive chunk, source⟩
termination_by reader.source.unread.length
decreasing_by exact Source.read?_shorter _outcome

/-- The weight of a reader: that of its phase and of the bytes still to be read. -/
def weight (reader : Reader) : Nat := reader.phase.weight + 2 * reader.source.unread.length

private theorem exhausted_ne_frame (limits : Limits) (phase : Phase) (source : Source)
    (payload : Bytes) : (exhausted limits phase source).1 ≠ some (.frame payload) := by
  unfold exhausted
  split
  · simp
  · simp only [ne_eq, Option.some.injEq]
    cases phase with
    | header held => cases held <;> simp [Phase.closed]
    | marker length held => simp [Phase.closed]
    | body length held => simp [Phase.closed]
  · simp
  · split <;> simp

/-- A frame leaves a lighter reader, so a stream holds finitely many of them. -/
theorem weight_next_lt (limits : Limits) (reader : Reader) {payload : Bytes} {after : Reader}
    (outcome : reader.next limits = (some (.frame payload), after)) :
    after.weight < reader.weight := by
  fun_induction next limits reader with
  | case1 reader result left settled =>
      have within := Phase.settle_within limits reader.phase
      simp only [Prod.mk.injEq, Option.some.injEq] at outcome
      obtain ⟨rfl, rfl⟩ := outcome
      rw [settled] at within
      have lighter : 2 * left.length < reader.phase.weight := within
      have forgotten : (rest left reader.source).phase.weight = 2 * left.length := rfl
      have untouched : (rest left reader.source).source = reader.source := rfl
      simp only [weight, forgotten, untouched]
      omega
  | case2 reader phase atMost settled empty =>
      have := exhausted_ne_frame limits phase reader.source payload
      rw [outcome] at this
      exact absurd rfl this
  | case3 reader phase atMost settled chunk source given inductionHypothesis =>
      have within := Phase.settle_within limits reader.phase
      have kept := congrArg List.length (Source.read?_unread given)
      have lighter := inductionHypothesis outcome
      rw [settled] at within
      simp only [Phase.DemandWithin] at within
      simp only [List.length_append] at kept
      simp only [weight, Phase.weight_receive] at *
      omega

/-- The results of successive calls, until `extra` more than one of them gave no frame. -/
def results (limits : Limits) (extra : Nat) (reader : Reader) : List Result :=
  match _outcome : reader.next limits with
  | (none, _) => []
  | (some (.frame payload), after) => .frame payload :: results limits extra after
  | (some result, after) =>
      match extra with
      | 0 => [result]
      | extra + 1 => result :: results limits extra after
termination_by (extra, reader.weight)
decreasing_by
  · exact Prod.Lex.right _ (weight_next_lt limits reader _outcome)
  · exact Prod.Lex.left _ _ (Nat.lt_succ_self _)

/-- What a reader comes to whose read has waited for as long as it may. -/
def expire (limit : Span) (reader : Reader) : Result × Reader :=
  (.failed (.timeout limit), rest reader.phase.kept reader.source)

def receive (reader : Reader) (bytes : Bytes) : Reader :=
  { reader with source := reader.source.receive bytes }

def finish (reader : Reader) (ending : Ending) : Reader :=
  { reader with source := { reader.source with ending } }

end Reader

end MetricIntake.Frame
