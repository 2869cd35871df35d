import MetricIntake.Proofs.Frame.Requests

/-!
Contract: a reader that reads through buffers is safe, call after call.

Owns:
- that a call agrees with one of a reader without buffers;
- what a call promises of its slices, its reads, the bytes read ahead and the bytes that it takes;
- that every one of successive calls keeps these promises.

Does not own: the payloads that a reader without buffers comes to.

## What carries over

A call can be over in the header, in the marker or in the payload, and it leaves different bytes
behind in each. One fact about them is enough for the next call: they are fewer than a header has.
Then what is missing of the header is at least one byte, and fits into the buffer for it. Within a
call the same holds again at each of its parts, since the bytes read ahead are none when the marker
begins and are the marker when the payload begins. So `Serves` is proved from the end of a call to
its beginning, and each part adds its reads and its bytes in front.
-/

set_option autoImplicit false

namespace MetricIntake.Frame

/-! ### Agreement -/

theorem Part.settle_phase (limits : Limits) {part : Part} {held : Bytes}
    (short : held.length < part.size) :
    (part.phase held).settle limits = .read (part.phase held) (part.room limits held.length) := by
  cases part with
  | header =>
      rw [Part.room_of_isAhead limits rfl]
      exact if_pos short
  | marker length =>
      rw [Part.room_of_isAhead limits rfl]
      exact if_pos short
  | payload length => exact if_pos short

namespace Reader

section Next

variable {limits : Limits} {phase settled : Phase} {room : Nat} {source : Source}

theorem next_of_done {result : Result} {left : Bytes}
    (demand : phase.settle limits = .done result left) :
    Reader.next limits ⟨phase, source⟩ = (some result, rest left source) := by
  rw [next]
  split
  · rename_i found
    rw [demand] at found
    cases found
    rfl
  · rename_i found
    rw [demand] at found
    cases found

theorem next_of_read (demand : phase.settle limits = .read settled room) :
    Reader.next limits ⟨phase, source⟩ =
      match source.read? room with
      | none => exhausted limits settled source
      | some (given, after) => Reader.next limits ⟨settled.receive given, after⟩ := by
  rw [next]
  split
  · rename_i found
    rw [demand] at found
    cases found
  · rename_i found
    rw [demand] at found
    cases found
    split <;> rename_i read <;> rw [read]

end Next

/-- A phase counts by its demand alone. -/
theorem next_congr {limits : Limits} {phase other : Phase}
    (same : phase.settle limits = other.settle limits) (source : Source) :
    Reader.next limits ⟨phase, source⟩ = Reader.next limits ⟨other, source⟩ := by
  cases demand : phase.settle limits with
  | done result left => rw [next_of_done demand, next_of_done (same ▸ demand)]
  | read settled room => rw [next_of_read demand, next_of_read (same ▸ demand)]

/-- What a reader without buffers comes to where no byte is unread. -/
theorem exhausted_eq (limits : Limits) (phase : Phase) (source : Source) :
    exhausted limits phase source =
      match source.ending.answer limits.readTimeout with
      | .ok _ => (some phase.closed, rest phase.kept source)
      | .error (.failed error) => (some (.failed error), rest phase.kept source)
      | .error _ => (none, ⟨phase, source⟩) := by
  unfold exhausted Ending.answer
  cases source.ending with
  | pending => rfl
  | closed => rfl
  | failed message => rfl
  | silent => cases limits.readTimeout <;> rfl

end Reader

/-- A loop leads a reader without buffers from one phase to the same one with more bytes. -/
theorem Fetches.next_eq {limits : Limits} {part : Part} {held heldAfter : Bytes}
    {source sourceAfter : Source} {events : List Event} {outcome : Except Stop Bool}
    (fetches : Fetches limits part held source events heldAfter sourceAfter outcome) :
    Reader.next limits ⟨part.phase held, source⟩ =
      Reader.next limits ⟨part.phase heldAfter, sourceAfter⟩ := by
  induction fetches with
  | ends _ => rfl
  | @more held given _ _ _ _ _ _ short read _ inductionHypothesis =>
      have received : (part.phase held).receive given = part.phase (held ++ given) := by
        cases part <;> rfl
      rw [Reader.next_of_read (Part.settle_phase limits short), read, ← inductionHypothesis,
        ← received]

/-- A call agrees with one of a reader without buffers: the same result, the same bytes left in the
stream, and what the other one keeps is read ahead. None comes of a slice that is out of range. -/
inductive Agrees :
    EStateM.Result Stop Buffered (Option Bytes) → Option Result × Reader → Prop where
  | frame (payload : Bytes) (after : Buffered) :
      Agrees (.ok (some payload) after) (some (.frame payload), .rest after.ahead after.source)
  | finished (after : Buffered) :
      Agrees (.ok none after) (some .finished, .rest after.ahead after.source)
  | failed (error : Error) (after : Buffered) :
      Agrees (.error (.failed error) after)
        (some (.failed error), .rest after.ahead after.source)
  | waiting {phase : Phase} {after : Buffered} (kept : phase.kept = after.ahead) :
      Agrees (.error .waiting after) (none, ⟨phase, after.source⟩)

/-- From a point on, a call comes to what a reader without buffers comes to from some phase, makes
so many reads and takes so many bytes at most, and leaves few bytes read ahead. -/
structure Serves (limits : Limits) (reads : Part → Nat) (bytes : Nat) (phase : Phase)
    (before : Buffered) (result : EStateM.Result Stop Buffered (Option Bytes)) : Prop where
  agrees : Agrees result (Reader.next limits ⟨phase, before.source⟩)
  few : (Buffered.left result).ahead.length ≤ markerSize
  stretch : ∃ events, Stretch reads bytes before events (Buffered.left result)

namespace Buffered

@[simp] theorem left_ended {α : Type} (outcome : Except Stop α) (after : Buffered) :
    left (ended outcome after) = after := by
  cases outcome <;> rfl

end Buffered

namespace Serves

variable {limits : Limits} {reads : Part → Nat} {bytes : Nat} {phase : Phase} {before : Buffered}
  {result : EStateM.Result Stop Buffered (Option Bytes)}

/-- What is done before a point comes to what is done from there. -/
theorem after {firstReads : Part → Nat} {firstBytes : Nat} {phaseBefore : Phase}
    {earlier : Buffered} {events : List Event}
    (serves : Serves limits reads bytes phase before result)
    (stretch : Stretch firstReads firstBytes earlier events before)
    (same : Reader.next limits ⟨phaseBefore, earlier.source⟩ =
      Reader.next limits ⟨phase, before.source⟩) :
    Serves limits (fun part => firstReads part + reads part) (firstBytes + bytes) phaseBefore
      earlier result where
  agrees := same ▸ serves.agrees
  few := serves.few
  stretch := by
    obtain ⟨later, stretchLater⟩ := serves.stretch
    exact ⟨events ++ later, stretch.append stretchLater⟩

/-- Phases with one demand serve alike. -/
theorem congr {other : Phase} (serves : Serves limits reads bytes phase before result)
    (same : other.settle limits = phase.settle limits) :
    Serves limits reads bytes other before result where
  agrees := Reader.next_congr same before.source ▸ serves.agrees
  few := serves.few
  stretch := serves.stretch

/-- A call that is over. -/
theorem ended {outcome : Except Stop (Option Bytes)}
    (agrees : Agrees (Buffered.ended outcome before) (Reader.next limits ⟨phase, before.source⟩))
    (few : before.ahead.length ≤ markerSize) :
    Serves limits (fun _ => 0) 0 phase before (Buffered.ended outcome before) where
  agrees := agrees
  few := by rwa [Buffered.left_ended]
  stretch := by
    rw [Buffered.left_ended]
    exact ⟨[], .nil before⟩

theorem mono {more : Part → Nat} {moreBytes : Nat}
    (serves : Serves limits reads bytes phase before result)
    (le : ∀ part, reads part ≤ more part) (leBytes : bytes ≤ moreBytes) :
    Serves limits more moreBytes phase before result where
  agrees := serves.agrees
  few := serves.few
  stretch := by
    obtain ⟨events, stretch⟩ := serves.stretch
    exact ⟨events, stretch.mono le leBytes⟩

/-- What follows is served when the bytes read ahead have been taken. -/
theorem emptied {change : Change}
    (serves : Serves limits reads bytes phase (before.emptied change) result) :
    Serves limits reads bytes phase before result := by
  refine (serves.after (.emptied change before) rfl).mono (fun part => ?_) ?_
  · exact Nat.le_of_eq (Nat.zero_add (reads part))
  · exact Nat.le_of_eq (Nat.zero_add bytes)

end Serves

/-- A call whose loop has ended too early is over: it waits, or it stops with the error of the
stream, or it comes to what the end of the stream means in this phase. -/
theorem Ends.agrees {limits : Limits} {part : Part} {held : Bytes} {events : List Event}
    {outcome : Except Stop Bool} {after : Buffered} {atEnd : Except Stop (Option Bytes)}
    (ends : Ends limits part held after.source events outcome) (early : outcome ≠ .ok true)
    (kept : (part.phase held).kept = after.ahead)
    (closed : Agrees (Buffered.ended atEnd after)
      (some (part.phase held).closed, .rest after.ahead after.source)) :
    Agrees (Buffered.ended (outcome.bind fun _ => atEnd) after)
      (Reader.next limits ⟨part.phase held, after.source⟩) := by
  cases ends with
  | complete enough => exact absurd rfl early
  | empty short empty =>
      rw [Reader.next_of_read (Part.settle_phase limits short), Source.read?_eq_none_iff.mpr empty]
      simp only [Reader.exhausted_eq, kept]
      cases answered : after.source.ending.answer limits.readTimeout with
      | ok given => exact closed
      | error stop =>
          cases stop with
          | failed error => exact .failed error after
          | waiting => exact .waiting kept
          | outOfRange => exact absurd answered Ending.answer_ne_outOfRange

theorem Buffered.resumed_of_early {α : Type} {after : Buffered}
    {whole : EStateM.Result Stop Buffered α} {atEnd : Except Stop α} {outcome : Except Stop Bool}
    (early : outcome ≠ .ok true) :
    resumed after whole atEnd outcome = ended (outcome.bind fun _ => atEnd) after := by
  cases outcome with
  | error stop => rfl
  | ok complete =>
      cases complete with
      | false => rfl
      | true => exact absurd rfl early

/-- **A loop and what comes after it.** Where the loop holds all of its part, the call goes on;
where it does not, the call is over. -/
theorem Fetches.serves {limits : Limits} {part : Part} {held heldAfter : Bytes}
    {events : List Event} {outcome : Except Stop Bool} {before after : Buffered}
    {reads : Part → Nat} {bytes : Nat} {whole : EStateM.Result Stop Buffered (Option Bytes)}
    {atEnd : Except Stop (Option Bytes)}
    (fetches : Fetches limits part held before.source events heldAfter after.source outcome)
    (within : held.length ≤ part.size)
    (stretch : Stretch (part.only (part.size - held.length)) (part.size - held.length) before events
      after)
    (goesOn : heldAfter.length = part.size →
      Serves limits reads bytes (part.phase heldAfter) after whole)
    (kept : (part.phase heldAfter).kept = after.ahead)
    (few : heldAfter.length < part.size → after.ahead.length ≤ markerSize)
    (closed : Agrees (Buffered.ended atEnd after)
      (some (part.phase heldAfter).closed, .rest after.ahead after.source)) :
    Serves limits (fun other => part.only (part.size - held.length) other + reads other)
      (part.size - held.length + bytes) (part.phase held) before
      (Buffered.resumed after whole atEnd outcome) := by
  obtain ⟨last, ends⟩ := fetches.ended
  have bounded := fetches.length_le within
  by_cases complete : outcome = .ok true
  case pos =>
    have enough := ends.size_le complete
    have later := goesOn (Nat.le_antisymm bounded enough)
    rw [complete]
    exact later.after stretch fetches.next_eq
  case neg =>
    have short := ends.lt_size complete
    have early : Serves limits _ _ (part.phase heldAfter) after _ :=
      .ended (ends.agrees complete kept closed) (few short)
    rw [Buffered.resumed_of_early complete]
    refine (early.after stretch fetches.next_eq).mono (fun other => ?_) ?_
    · exact Nat.add_le_add_left (Nat.zero_le _) _
    · exact Nat.add_le_add_left (Nat.zero_le _) _

/-! ### Payloads -/

namespace Buffered

variable {limits : Limits} {length : Nat} {before : Buffered}

theorem gather_serves {payload chunk : Bytes} (sized : chunk.length = min limits.chunk length)
    (within : payload.length ≤ length) (empty : before.ahead = []) :
    Serves limits (Part.only (.payload length) (length - payload.length)) (length - payload.length)
      (.body length payload) before
      ((gather limits length payload chunk >>= fun payload => return some payload).run before) := by
  obtain ⟨events, gathered, after, outcome, fetches, kept, told, ran⟩ :=
    gather_fetches limits length payload chunk sized before
  have finished : (gather limits length payload chunk >>= fun payload => return some payload).run
      before = resumed after (ended (.ok (some gathered)) after)
        (.error (.failed (.midFrame gathered.length length))) outcome := by
    rw [EStateM.run_bind, ran]
    cases outcome with
    | error stop => rfl
    | ok complete => cases complete <;> rfl
  rw [empty] at kept
  have few : after.ahead.length ≤ markerSize := by
    rw [kept]
    exact Nat.zero_le markerSize
  have whole (enough : gathered.length = length) : Serves limits (fun _ => 0) 0
      (.body length gathered) after (ended (.ok (some gathered)) after) := by
    have settled : (Phase.body length gathered).settle limits =
        .done (.frame gathered) after.ahead := by
      rw [Phase.settle, Phase.settleBody, if_neg (by omega), List.take_of_length_le (by omega),
        List.drop_of_length_le (by omega), kept]
    refine .ended ?_ few
    rw [Reader.next_of_done settled]
    exact .frame gathered after
  have follows : events.foldl Event.follow before.ahead = after.ahead := by
    rw [fetches.follow_of_not_isAhead rfl, kept, empty]
  rw [finished]
  exact fetches.serves within (fetches.stretch within told follows) whole kept.symm (fun _ => few)
    (.failed _ after)

/-- A payload begins with the bytes that were read ahead, none of which stays there. -/
theorem readPayload_serves (within : before.ahead.length ≤ length) :
    Serves limits (Part.only (.payload length) (length - before.ahead.length))
      (length - before.ahead.length) (.body length before.ahead) before
      ((readPayload limits length >>= fun payload => return some payload).run before) := by
  have sized : (List.replicate (min limits.chunk length) (0 : UInt8)).length =
      min limits.chunk length := List.length_replicate
  have gathering : (readPayload limits length >>= fun payload => return some payload).run before =
      (gather limits length before.ahead (List.replicate (min limits.chunk length) 0) >>=
        fun payload => return some payload).run (before.emptied .payloadBegun) := by
    have all := (Nat.min_eq_left within).symm
    simp only [readPayload, EStateM.run_bind, EStateM.run_get, run_takeAhead .payloadBegun all]
  rw [gathering]
  exact (gather_serves sized within rfl).emptied

/-! ### Markers -/

/-- What a call comes to when the bytes of a marker are there. -/
def lookedAt (limits : Limits) (length : Nat) (after : Buffered) :
    EStateM.Result Stop Buffered (Option Bytes) :=
  if length < markerSize ∨ hasMarker after.ahead = false then
    ended (.error (.failed (.invalidMarker after.ahead))) after
  else (readPayload limits length >>= fun payload => return some payload).run after

theorem settle_marker (limits : Limits) {ahead : Bytes}
    (whole : ahead.length = min markerSize length) :
    (Phase.marker length ahead).settle limits =
      if length < markerSize ∨ hasMarker ahead = false then
        .done (.failed (.invalidMarker ahead)) ahead
      else (Phase.body length ahead).settle limits := by
  simp only [Phase.settle, Phase.settleMarker, List.take_of_length_le (Nat.le_of_eq whole)]
  rw [if_neg (Nat.not_lt.mpr (Nat.le_of_eq whole.symm))]

theorem lookedAt_serves (whole : before.ahead.length = min markerSize length) :
    Serves limits (Part.only (.payload length) (length - markerSize)) (length - markerSize)
      (.marker length before.ahead) before (lookedAt limits length before) := by
  have settled := settle_marker limits whole
  unfold lookedAt
  split <;> rename_i verdict
  · rw [if_pos verdict] at settled
    have few : before.ahead.length ≤ markerSize := whole ▸ Nat.min_le_left _ _
    refine .mono (.ended ?_ few) (fun _ => Nat.zero_le _) (Nat.zero_le _)
    rw [Reader.next_of_done settled]
    exact .failed _ before
  · rw [if_neg verdict] at settled
    -- The marker stays ahead when it has been looked at, so the payload begins with it.
    have three : before.ahead.length = markerSize := by omega
    rw [← three]
    exact (readPayload_serves (by omega)).congr settled

theorem run_readFrame_of_fill {outcome : Except Stop Bool} {after : Buffered}
    (ran : (fill limits (.marker length)).run before = ended outcome after)
    (within : after.ahead.length ≤ min markerSize length) :
    (readFrame limits length).run before =
      resumed after (lookedAt limits length after)
        (.error (.failed (.midFrame after.ahead.length length))) outcome := by
  simp only [readFrame, checkMarker, EStateM.run_bind, ran]
  cases outcome with
  | error stop => rfl
  | ok complete =>
      cases complete with
      | false => rfl
      | true =>
          simp only [ended, resumed, lookedAt, EStateM.run_get, EStateM.run_bind, if_true,
            Nat.min_eq_left within, run_slice (Nat.le_refl _), List.take_length]
          by_cases verdict : length < markerSize ∨ hasMarker after.ahead = false
          · rw [if_pos verdict, if_pos verdict]
            rfl
          · rw [if_neg verdict, if_neg verdict]
            rfl

end Buffered

/-! ### Frames -/

/-- The bytes of a part that are missing when its loop begins, in a call that begins with so many
bytes read ahead. When a marker begins, none are, and a payload begins with its marker. -/
def Part.missing (ahead : Nat) : Part → Nat
  | .header => headerSize - ahead
  | .marker length => min markerSize length
  | .payload length => length - markerSize

theorem Part.only_marker_add_only_payload_le (length : Nat) (part : Part) :
    Part.only (.marker length) (min markerSize length) part +
      Part.only (.payload length) (length - markerSize) part ≤ part.missing headerSize := by
  unfold only
  cases part with
  | header => exact Nat.zero_le _
  | marker other =>
      by_cases same : other = length
      · simp [same, missing]
      · simp [same]
  | payload other =>
      by_cases same : other = length
      · simp [same, missing]
      · simp [same]

/-- The bytes of the frame that begins where some bytes begin, as far as they tell. -/
def extent (bytes : Bytes) : Nat :=
  if bytes.length < headerSize then headerSize
  else headerSize + lengthOfHeader (bytes.take headerSize)

theorem headerSize_le_extent (bytes : Bytes) : headerSize ≤ extent bytes := by
  unfold extent
  split <;> omega

theorem extent_of_header {header : Bytes} (whole : header.length = headerSize) (payload : Bytes) :
    extent (header ++ payload) = headerSize + lengthOfHeader header := by
  rw [extent, if_neg (by rw [List.length_append]; omega), ← whole, List.take_left]

namespace Buffered

variable {limits : Limits} {length : Nat} {before : Buffered}

theorem readFrame_serves (empty : before.ahead = []) :
    Serves limits (Part.missing headerSize) length (.marker length []) before
      ((readFrame limits length).run before) := by
  obtain ⟨events, after, outcome, fetches, told, ran⟩ :=
    fill_fetches limits (.marker length) rfl before
  have follows := fetches.follow_of_isAhead rfl
  rw [empty] at fetches
  have within : after.ahead.length ≤ min markerSize length := fetches.length_le (Nat.zero_le _)
  have few : after.ahead.length ≤ markerSize := Nat.le_trans within (Nat.min_le_left _ _)
  have stretch := fetches.stretch (Nat.zero_le _) told follows
  rw [run_readFrame_of_fill ran within]
  refine .mono (fetches.serves (Nat.zero_le _) stretch lookedAt_serves rfl (fun _ => few)
    (.failed _ after)) (Part.only_marker_add_only_payload_le length) ?_
  simp only [Part.size, List.length_nil]
  omega

/-- What a call comes to when a header is there. -/
def begun (limits : Limits) (after : Buffered) : EStateM.Result Stop Buffered (Option Bytes) :=
  if limits.maxLength < lengthOfHeader after.ahead then
    ended (.error (.failed (.oversized (lengthOfHeader after.ahead) limits.maxLength)))
      (after.emptied .headerTaken)
  else (readFrame limits (lengthOfHeader after.ahead)).run (after.emptied .headerTaken)

theorem settle_header (limits : Limits) {ahead : Bytes} (whole : ahead.length = headerSize) :
    (Phase.header ahead).settle limits =
      if limits.maxLength < lengthOfHeader ahead then
        .done (.failed (.oversized (lengthOfHeader ahead) limits.maxLength)) []
      else (Phase.marker (lengthOfHeader ahead) []).settle limits := by
  simp only [Phase.settle, Phase.settleHeader, List.take_of_length_le (Nat.le_of_eq whole),
    List.drop_of_length_le (Nat.le_of_eq whole)]
  rw [if_neg (Nat.not_lt.mpr (Nat.le_of_eq whole.symm))]

theorem begun_serves (whole : before.ahead.length = headerSize) :
    Serves limits (Part.missing headerSize) (lengthOfHeader before.ahead) (.header before.ahead)
      before (begun limits before) := by
  have settled := settle_header limits whole
  unfold begun
  split <;> rename_i verdict
  · rw [if_pos verdict] at settled
    refine .emptied (.mono (.ended ?_ (Nat.zero_le _)) (fun _ => Nat.zero_le _) (Nat.zero_le _))
    rw [Reader.next_of_done settled]
    exact .failed _ (before.emptied .headerTaken)
  · rw [if_neg verdict] at settled
    exact .emptied (.congr (readFrame_serves rfl) settled)

theorem run_next_of_fill {outcome : Except Stop Bool} {after : Buffered}
    (ran : (fill limits .header).run before = ended outcome after)
    (whole : outcome = .ok true → after.ahead.length = headerSize) :
    (next limits).run before =
      resumed after (begun limits after)
        (if after.ahead = [] then .ok none else .error (.failed (.midHeader after.ahead.length)))
        outcome := by
  simp only [next, EStateM.run_bind, ran]
  cases outcome with
  | error stop => rfl
  | ok complete =>
      cases complete with
      | false =>
          simp only [ended, resumed, Bool.false_eq_true, if_false, EStateM.run_bind,
            EStateM.run_get]
          by_cases none : after.ahead = []
          · rw [if_pos none, if_pos none]
            rfl
          · rw [if_neg none, if_neg none]
            rfl
      | true =>
          simp only [ended, resumed, begun, if_true, EStateM.run_bind,
            run_takeAhead .headerTaken (whole rfl)]
          by_cases verdict : limits.maxLength < lengthOfHeader after.ahead
          · rw [if_pos verdict, if_pos verdict]
            rfl
          · rw [if_neg verdict, if_neg verdict]

theorem agrees_of_midHeader (after : Buffered) :
    Agrees
      (ended (if after.ahead = [] then .ok none
        else .error (.failed (.midHeader after.ahead.length))) after)
      (some (Phase.header after.ahead).closed, .rest after.ahead after.source) := by
  obtain ⟨ahead, source, events⟩ := after
  cases ahead with
  | nil => exact .finished _
  | cons first others => exact .failed _ _

/-- A call that begins with few bytes read ahead agrees with one of a reader without buffers, reads
for what is missing of the frame that these bytes begin, and leaves few bytes read ahead. -/
theorem next_serves (limits : Limits) (few : before.ahead.length ≤ markerSize) :
    Serves limits (Part.missing before.ahead.length)
      (extent (before.ahead ++ before.source.unread) - before.ahead.length) (.header before.ahead)
      before ((next limits).run before) := by
  obtain ⟨events, after, outcome, fetches, told, ran⟩ := fill_fetches limits .header rfl before
  have within : before.ahead.length ≤ headerSize := Nat.le_succ_of_le few
  obtain ⟨last, ends⟩ := fetches.ended
  have bounded := fetches.length_le within
  have whole (complete : outcome = .ok true) : after.ahead.length = headerSize :=
    Nat.le_antisymm bounded (ends.size_le complete)
  have bytes : before.ahead ++ before.source.unread = after.ahead ++ after.source.unread := by
    rw [fetches.gathered.1, fetches.gathered.2, List.append_assoc]
  -- In terms of the extent, the bound also holds of calls that are over within the header.
  have goesOn (four : after.ahead.length = headerSize) : Serves limits (Part.missing headerSize)
      (extent (before.ahead ++ before.source.unread) - headerSize) (.header after.ahead) after
      (begun limits after) := by
    rw [bytes, extent_of_header four, Nat.add_sub_cancel_left]
    exact begun_serves four
  rw [run_next_of_fill ran whole]
  have stretch := fetches.stretch within told (fetches.follow_of_isAhead rfl)
  refine .mono (fetches.serves within stretch goesOn rfl Nat.le_of_lt_succ
    (agrees_of_midHeader after)) (fun part => ?_) ?_
  · cases part <;> simp [Part.only, Part.missing, Part.size]
  · have least := headerSize_le_extent (before.ahead ++ before.source.unread)
    simp only [Part.size]
    omega

end Buffered

/-! ### Successive calls -/

/-- What holds of each of successive calls. -/
structure Call.IsSafe (limits : Limits) (call : Call) : Prop where
  /-- It comes to what a reader without buffers comes to. -/
  agrees : Agrees call.result (Reader.next limits (.rest call.before.ahead call.before.source))
  /-- Every slice lies within its buffer. -/
  inRange : ∀ after, call.result ≠ .error .outOfRange after
  /-- Between calls, no more bytes than a marker has are read ahead. -/
  few : call.before.ahead.length ≤ markerSize ∧
    (Buffered.left call.result).ahead.length ≤ markerSize
  /-- Within a call, no more than a header has are, and every read asks for what is missing. -/
  safe : ∀ event ∈ (Buffered.left call.result).events, event.IsSafe
  /-- The changes recorded lead to the bytes that are read ahead in the end. -/
  held : (Buffered.left call.result).events.foldl Event.follow call.before.ahead =
    (Buffered.left call.result).ahead
  /-- No part takes more reads than bytes of it are missing. -/
  reads : ∀ part, readCount part (Buffered.left call.result).events ≤
    part.missing call.before.ahead.length
  /-- The bytes that the reads gave have left the stream, and no others. -/
  taken : call.before.source.unread =
    given (Buffered.left call.result).events ++ (Buffered.left call.result).source.unread
  /-- No byte behind the frame is among them. -/
  within : call.before.ahead.length + (given (Buffered.left call.result).events).length ≤
    extent (call.before.ahead ++ call.before.source.unread)

/-- No slice is out of range in a call that agrees with one that has no slices. -/
theorem Agrees.inRange {result : EStateM.Result Stop Buffered (Option Bytes)}
    {found : Option Result × Reader} (agrees : Agrees result found) (after : Buffered) :
    result ≠ .error .outOfRange after := by
  intro outcome
  rw [outcome] at agrees
  cases agrees

namespace Buffered

theorem next_isSafe (limits : Limits) {before : Buffered} (few : before.ahead.length ≤ markerSize)
    (fresh : before.events = []) : Call.IsSafe limits ⟨before, (next limits).run before⟩ := by
  have serves := next_serves limits few
  obtain ⟨events, stretch⟩ := serves.stretch
  have told : (left ((next limits).run before)).events = events := by
    rw [stretch.told, fresh, List.nil_append]
  have within : before.ahead.length + (given events).length ≤
      extent (before.ahead ++ before.source.unread) := by
    have bounded := stretch.bytes
    have least := headerSize_le_extent (before.ahead ++ before.source.unread)
    have most : before.ahead.length ≤ headerSize := Nat.le_succ_of_le few
    omega
  exact {
    agrees := serves.agrees
    inRange := serves.agrees.inRange
    few := ⟨few, serves.few⟩
    safe := told ▸ stretch.safe
    held := told ▸ stretch.held
    reads := told ▸ stretch.reads
    taken := told ▸ stretch.taken
    within := told ▸ within }

theorem calls_isSafe_of_few (limits : Limits) (changes : List (Source → Source))
    (buffered : Buffered) (few : buffered.ahead.length ≤ markerSize) :
    ∀ call ∈ calls limits changes buffered, call.IsSafe limits := by
  induction changes generalizing buffered with
  | nil => exact List.forall_mem_nil _
  | cons change changes inductionHypothesis =>
      let before : Buffered := { buffered with source := change buffered.source, events := [] }
      have first : Call.IsSafe limits ⟨before, (next limits).run before⟩ :=
        next_isSafe limits few rfl
      -- What the first call leaves is all that the others need to know of it.
      exact List.forall_mem_cons.mpr ⟨first, inductionHypothesis _ first.few.2⟩

/-- **Each of successive calls is safe**, whatever the stream, the limits and the ways in which the
stream changes between the calls, and whatever the calls before it came to. -/
theorem calls_isSafe (limits : Limits) (changes : List (Source → Source)) (source : Source) :
    ∀ call ∈ calls limits changes (.ofSource source), call.IsSafe limits :=
  calls_isSafe_of_few limits changes _ (Nat.zero_le _)

/-- With a chunk size of zero, the call after one that found no marker begins with three bytes. -/
theorem calls_isSafe_afterInvalidMarker :
    let limits : Limits := ⟨16, 0, none⟩
    let source : Source := ⟨[0, 0, 0, 5, 1, 2, 3, 9], [1, 2], .closed⟩
    ∃ call ∈ calls limits [id, id] (.ofSource source),
      call.before.ahead = [1, 2, 3] ∧ call.IsSafe limits := by
  intro limits source
  let first := (next limits).run (.ofSource source)
  let second := { left first with events := [] }
  have member : ⟨second, (next limits).run second⟩ ∈ calls limits [id, id] (.ofSource source) :=
    .tail _ (.head _)
  exact ⟨_, member, by decide +kernel, calls_isSafe limits [id, id] source _ member⟩

end Buffered

end MetricIntake.Frame
