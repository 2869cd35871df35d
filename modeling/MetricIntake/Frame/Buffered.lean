import MetricIntake.Frame.Reader

/-!
Contract: a reader together with the buffers that it keeps bytes in.

Owns:
- the bytes read ahead, which stay from one call to the next, and the buffers of a single call;
- slices of buffers, each of which must lie within its buffer;
- reads into a slice, and a record of what each was made for, how much room it had and what it gave;
- successive calls on a stream that may change between them.

Does not own: what a call comes to. `Reader` says the same without a buffer, a slice or a count of
zero that stands for the end.
-/

namespace MetricIntake.Frame

/-- A part of a frame that one loop reads. -/
inductive Part where
  | header
  /-- The bytes of a payload of `length` bytes that are looked at before the others are read. -/
  | marker (length : Nat)
  | payload (length : Nat)
deriving DecidableEq, Repr

def Part.size : Part → Nat
  | .header => headerSize
  | .marker length => min markerSize length
  | .payload length => length

/-- Why a call does not come to its end. -/
inductive Stop where
  | failed (error : Error)
  /-- No byte is there, and the read waits for one. -/
  | waiting
  /-- A slice does not lie within its buffer. -/
  | outOfRange
deriving DecidableEq, Repr

/-- What a read gives where no unread byte is left. No bytes at all stand for the end. -/
def Ending.answer (readTimeout : Option Span) : Ending → Except Stop Bytes
  | .closed => .ok []
  | .failed message => .error (.failed (.transport message))
  | .silent =>
      match readTimeout with
      | some limit => .error (.failed (.timeout limit))
      | none => .error .waiting
  | .pending => .error .waiting

/-- One read into so much room. Without room it gives no bytes either, wherever the stream is. -/
def Source.readInto (readTimeout : Option Span) (room : Nat) (source : Source) :
    Except Stop Bytes × Source :=
  if room = 0 then (.ok [], source)
  else
    match source.read? room with
    | some (given, rest) => (.ok given, rest)
    | none => (source.ending.answer readTimeout, source)

/-- What is recorded of a read. -/
structure Request where
  part : Part
  /-- How many bytes of the part were there. -/
  held : Nat
  /-- How many bytes the read asked for. -/
  room : Nat
  /-- The stream before the read. -/
  source : Source
  answer : Except Stop Bytes

/-- Where the bytes read ahead change. -/
inductive Change where
  | filled
  | headerTaken
  | payloadBegun
deriving DecidableEq, Repr

/-- What is recorded of a call, in the order in which it happens. -/
inductive Event where
  | read (request : Request)
  /-- The bytes read ahead, after they changed. -/
  | ahead (change : Change) (held : Bytes)

/-- A reader as it is between two steps of a call. Nothing depends on the events. -/
structure Buffered where
  /-- The bytes read ahead. -/
  ahead : Bytes
  /-- The rest of the stream. -/
  source : Source
  /-- What the call has done so far. -/
  events : List Event

/-- A part of a call. What it has done stays done when it stops. -/
abbrev Routine := EStateM Stop Buffered

namespace Buffered

def ofSource (source : Source) : Buffered := ⟨[], source, []⟩

/-! ### Buffers -/

/-- The first `count` bytes of a buffer. -/
def slice (count : Nat) (buffer : Bytes) : Routine Bytes :=
  if count ≤ buffer.length then pure (buffer.take count) else throw .outOfRange

/-- A buffer with other bytes at its front. -/
def copyInto (bytes buffer : Bytes) : Routine Bytes :=
  if bytes.length ≤ buffer.length then pure (bytes ++ buffer.drop bytes.length)
  else throw .outOfRange

def setAhead (change : Change) (held : Bytes) : Routine Unit :=
  modify fun buffered =>
    { buffered with ahead := held, events := buffered.events ++ [.ahead change held] }

/-- Splits off the first `count` bytes that were read ahead. -/
def takeAhead (change : Change) (count : Nat) : Routine Bytes := do
  let ahead := (← get).ahead
  let front ← slice count ahead
  setAhead change (ahead.drop count)
  return front

/-- A reader after a read. -/
def told (buffered : Buffered) (request : Request) (rest : Source) : Buffered :=
  { buffered with source := rest, events := buffered.events ++ [.read request] }

/-- One read into the first `room` bytes of a buffer. Comes to the count of bytes given and to the
buffer with these bytes at its front. -/
def readSome (limits : Limits) (part : Part) (held room : Nat) (buffer : Bytes) :
    Routine (Nat × Bytes) := do
  let space ← slice room buffer
  let source := (← get).source
  let (answer, rest) := source.readInto limits.readTimeout room
  modify fun buffered => buffered.told ⟨part, held, room, source, answer⟩ rest
  match answer with
  | .ok given => return (given.length, (← copyInto given space) ++ buffer.drop room)
  | .error stop => throw stop

/-! ### Reading ahead -/

/-- Reads ahead once. Says whether the stream gave any bytes. -/
def topUp (limits : Limits) (part : Part) : Routine Bool := do
  let ahead := (← get).ahead
  let (count, chunk) ← readSome limits part ahead.length (part.size - ahead.length)
    (List.replicate headerSize 0)
  if count = 0 then return false
  else
    let given ← slice count chunk
    setAhead .filled (ahead ++ given)
    return true

theorem run_bind_eq_ok_iff {α β : Type} {first : Routine α} {next : α → Routine β}
    {before after : Buffered} {value : β} :
    (first >>= next).run before = .ok value after ↔
      ∃ found between, first.run before = .ok found between ∧
        (next found).run between = .ok value after := by
  rw [EStateM.run_bind]
  cases first.run before with
  | ok found between => simp [and_assoc]
  | error stop between => simp

theorem run_slice_eq_ok_iff {count : Nat} {buffer front : Bytes} {before after : Buffered} :
    (slice count buffer).run before = .ok front after ↔
      count ≤ buffer.length ∧ buffer.take count = front ∧ before = after := by
  unfold slice
  split
  · rename_i fits
    simp [EStateM.run_pure, fits]
  · rename_i beyond
    constructor
    · intro outcome
      cases outcome
    · exact fun outcome => absurd outcome.1 beyond

/-- A read leaves the bytes read ahead alone, and counts bytes that are in the buffer. -/
theorem run_readSome_eq_ok {limits : Limits} {part : Part} {held room count : Nat}
    {buffer chunk : Bytes} {before after : Buffered}
    (outcome : (readSome limits part held room buffer).run before = .ok (count, chunk) after) :
    after.ahead = before.ahead ∧ count ≤ chunk.length := by
  simp only [readSome, run_bind_eq_ok_iff, run_slice_eq_ok_iff] at outcome
  obtain ⟨space, _, ⟨-, -, rfl⟩, state, _, got, _, between, noted, read⟩ := outcome
  cases got
  cases noted
  cases answer : (before.source.readInto limits.readTimeout room).1 with
  | error stop =>
      simp only [answer] at read
      cases read
  | ok given =>
      simp only [answer, run_bind_eq_ok_iff] at read
      obtain ⟨filled, _, copied, returned⟩ := read
      unfold copyInto at copied
      split at copied
      · cases copied
        cases returned
        exact ⟨rfl, by simp⟩
      · cases copied

/-- What the stream gave is read ahead. -/
theorem ahead_lt_of_topUp {limits : Limits} {part : Part} {before after : Buffered}
    (outcome : (topUp limits part).run before = .ok true after) :
    before.ahead.length < after.ahead.length := by
  simp only [topUp, run_bind_eq_ok_iff] at outcome
  obtain ⟨_, _, got, ⟨count, chunk⟩, between, read, outcome⟩ := outcome
  cases got
  obtain ⟨-, within⟩ := run_readSome_eq_ok read
  split at outcome
  · cases outcome
  · rename_i some
    simp only [run_bind_eq_ok_iff, run_slice_eq_ok_iff] at outcome
    obtain ⟨_, _, ⟨-, rfl, rfl⟩, _, _, set, returned⟩ := outcome
    cases set
    cases returned
    simp only [List.length_append, List.length_take]
    omega

/-- Reads ahead until a part is there. Says whether the stream had all of it. -/
def fill (limits : Limits) (part : Part) : Routine Bool := fun before =>
  if before.ahead.length < part.size then
    match _outcome : (topUp limits part).run before with
    | .ok true after => fill limits part after
    | .ok false after => .ok false after
    | .error stop after => .error stop after
  else .ok true before
termination_by before => part.size - before.ahead.length
decreasing_by
  have longer := ahead_lt_of_topUp _outcome
  omega

/-! ### Payloads -/

/-- Reads a piece of a payload through a chunk, which keeps what no read has overwritten. A payload
that ends too early is an error. -/
def draw (limits : Limits) (length : Nat) (payload chunk : Bytes) : Routine (Bytes × Bytes) := do
  let (count, chunk) ← readSome limits (.payload length) payload.length
    (min (length - payload.length) chunk.length) chunk
  if count = 0 then throw (.failed (.midFrame payload.length length))
  else
    let given ← slice count chunk
    return (payload ++ given, chunk)

theorem length_lt_of_draw {limits : Limits} {length : Nat} {payload chunk longer chunkAfter : Bytes}
    {before after : Buffered}
    (outcome : (draw limits length payload chunk).run before = .ok (longer, chunkAfter) after) :
    payload.length < longer.length := by
  simp only [draw, run_bind_eq_ok_iff] at outcome
  obtain ⟨⟨count, filled⟩, between, read, outcome⟩ := outcome
  obtain ⟨-, within⟩ := run_readSome_eq_ok read
  split at outcome
  · cases outcome
  · rename_i some
    simp only [run_bind_eq_ok_iff, run_slice_eq_ok_iff] at outcome
    obtain ⟨_, _, ⟨-, rfl, rfl⟩, returned⟩ := outcome
    cases returned
    simp only [List.length_append, List.length_take]
    omega

/-- Reads a payload to its end. -/
def gather (limits : Limits) (length : Nat) (payload chunk : Bytes) : Routine Bytes := fun before =>
  if payload.length < length then
    match _outcome : (draw limits length payload chunk).run before with
    | .ok (longer, chunk) after => gather limits length longer chunk after
    | .error stop after => .error stop after
  else .ok payload before
termination_by length - payload.length
decreasing_by
  have longer := length_lt_of_draw _outcome
  omega

/-- The payload, which begins with the bytes read ahead. -/
def readPayload (limits : Limits) (length : Nat) : Routine Bytes := do
  let ahead := (← get).ahead
  let payload ← takeAhead .payloadBegun (min ahead.length length)
  gather limits length payload (List.replicate (min limits.chunk length) 0)

/-- Looks at the marker, which stays read ahead. -/
def checkMarker (limits : Limits) (length : Nat) : Routine Unit := do
  let complete ← fill limits (.marker length)
  let ahead := (← get).ahead
  if complete then
    let found ← slice (min ahead.length (min markerSize length)) ahead
    if length < markerSize ∨ hasMarker found = false then throw (.failed (.invalidMarker found))
    else return ()
  else throw (.failed (.midFrame ahead.length length))

/-- The payload of a frame whose header said its length. -/
def readFrame (limits : Limits) (length : Nat) : Routine (Option Bytes) := do
  checkMarker limits length
  let payload ← readPayload limits length
  return some payload

/-! ### Calls -/

/-- The next frame, or nothing at the end of the stream. -/
def next (limits : Limits) : Routine (Option Bytes) := do
  let complete ← fill limits .header
  if complete then
    let header ← takeAhead .headerTaken headerSize
    if limits.maxLength < lengthOfHeader header then
      throw (.failed (.oversized (lengthOfHeader header) limits.maxLength))
    else readFrame limits (lengthOfHeader header)
  else
    let ahead := (← get).ahead
    if ahead = [] then return none
    else throw (.failed (.midHeader ahead.length))

end Buffered

/-- One call for the next frame. -/
structure Call where
  before : Buffered
  result : EStateM.Result Stop Buffered (Option Bytes)

/-- The state that a routine leaves, also where it stops. -/
def Buffered.left {α : Type} : EStateM.Result Stop Buffered α → Buffered
  | .ok _ after => after
  | .error _ after => after

/-- Successive calls. Before each of them the stream changes in some way: bytes arrive, it ends, it
fails, it recovers. A call that waits is given up before the next one. -/
def Buffered.calls (limits : Limits) : (changes : List (Source → Source)) → Buffered → List Call
  | [], _ => []
  | change :: changes, buffered =>
      let before := { buffered with source := change buffered.source, events := [] }
      let result := (next limits).run before
      ⟨before, result⟩ :: calls limits changes (left result)

end MetricIntake.Frame
