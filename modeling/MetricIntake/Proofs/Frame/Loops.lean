import MetricIntake.Frame.Buffered
import MetricIntake.Proofs.Frame.Resumption

/-!
Contract: the course of the loops that read through buffers.

Owns:
- what each routine comes to, as long as the slices that it takes lie within their buffers;
- the course of a loop, from what it holds at first to how it ends;
- that reading ahead and reading a payload both take such a course.

Does not own: what is promised of a course.

## Two loops, one course

Reading ahead gathers bytes where later calls find them, and reading a payload gathers them through
a chunk that it uses again for every read. Both ask for what is missing as far as there is room, and
both take no bytes for the end. They differ in the buffer and in what they do at the end, so
`Fetches` leaves both out, and a part says with `room` and `noted` what is left of the difference.
-/

set_option autoImplicit false

namespace MetricIntake.Frame

/-! ### Reads -/

namespace Source

variable {source rest : Source} {room : Nat} {given : Bytes}

theorem read?_bounds (outcome : source.read? room = some (given, rest)) (positive : 0 < room) :
    0 < given.length ∧ given.length ≤ room := by
  unfold read? at outcome
  split at outcome
  · cases outcome
  · rename_i nonempty
    simp only [List.splitAt_eq, Option.some.injEq, Prod.mk.injEq] at outcome
    rw [← outcome.1, List.length_take]
    have some : 0 < source.unread.length := by
      rw [List.isEmpty_iff] at nonempty
      exact List.length_pos_iff.mpr nonempty
    have least : 1 ≤ source.grant room := Nat.le_max_left _ _
    have most : source.grant room ≤ room := by
      unfold grant
      omega
    omega

theorem readInto_of_given (outcome : source.read? room = some (given, rest)) (positive : 0 < room)
    (readTimeout : Option Span) : source.readInto readTimeout room = (.ok given, rest) := by
  rw [readInto, if_neg (Nat.ne_of_gt positive), outcome]

theorem readInto_of_empty (empty : source.unread = []) (positive : 0 < room)
    (readTimeout : Option Span) :
    source.readInto readTimeout room = (source.ending.answer readTimeout, source) := by
  rw [readInto, if_neg (Nat.ne_of_gt positive), read?_eq_none_iff.mpr empty]

end Source

/-- Where no byte is unread, only the end gives anything, and it gives no bytes. -/
theorem Ending.answer_eq_ok_iff {readTimeout : Option Span} {ending : Ending} {given : Bytes} :
    ending.answer readTimeout = .ok given ↔ ending = .closed ∧ given = [] := by
  cases ending with
  | pending => simp [answer]
  | closed => simp [answer, eq_comm]
  | failed message => simp [answer]
  | silent => cases readTimeout <;> simp [answer]

theorem Ending.answer_ne_outOfRange {readTimeout : Option Span} {ending : Ending} :
    ending.answer readTimeout ≠ .error .outOfRange := by
  cases ending with
  | silent => cases readTimeout <;> simp [answer]
  | _ => simp [answer]

theorem Ending.length_le_of_answer {readTimeout : Option Span} {ending : Ending} (room : Nat) :
    ∀ given, ending.answer readTimeout = .ok given → given.length ≤ room := by
  intro given answered
  rw [(answer_eq_ok_iff.mp answered).2]
  exact Nat.zero_le room

/-! ### Parts -/

namespace Part

/-- Whether a part is gathered among the bytes read ahead. -/
def isAhead : Part → Bool
  | .payload _ => false
  | _ => true

/-- The bytes that a loop asks for when it holds some bytes of its part: what is missing, as far as
there is room. -/
def room (limits : Limits) (part : Part) (held : Nat) : Nat :=
  min (if part.isAhead then headerSize else limits.chunk) (part.size - held)

/-- What a loop records of a read. -/
def request (limits : Limits) (part : Part) (held : Bytes) (source : Source)
    (answer : Except Stop Bytes) : Event :=
  .read ⟨part, held.length, part.room limits held.length, source, answer⟩

/-- What a loop records when it holds more bytes. -/
def noted (part : Part) (held : Bytes) : List Event :=
  if part.isAhead then [.ahead .filled held] else []

/-- What a reader without buffers holds instead of a part. -/
def phase : Part → Bytes → Phase
  | .header, held => .header held
  | .marker length, held => .marker length held
  | .payload length, held => .body length held

variable {part : Part}

theorem size_le_of_isAhead (ahead : part.isAhead = true) : part.size ≤ headerSize := by
  cases part with
  | header => exact Nat.le_refl _
  | marker length => exact Nat.le_trans (Nat.min_le_left _ _) (by decide)
  | payload length => cases ahead

theorem room_of_isAhead (limits : Limits) (ahead : part.isAhead = true) (held : Nat) :
    part.room limits held = part.size - held := by
  have small := size_le_of_isAhead ahead
  rw [room, if_pos ahead]
  omega

theorem room_pos (limits : Limits) {held : Nat} (short : held < part.size) :
    0 < part.room limits held := by
  have one : 0 < limits.chunk := Nat.le_max_right _ _
  have four : 0 < headerSize := by decide
  unfold room
  split <;> omega

theorem room_le (limits : Limits) (part : Part) (held : Nat) :
    part.room limits held ≤ part.size - held :=
  Nat.min_le_right _ _

end Part

/-! ### Routines -/

namespace Buffered

/-- A routine that came to an outcome and left a state. -/
def ended {α : Type} : Except Stop α → Buffered → EStateM.Result Stop Buffered α
  | .ok found, after => .ok found after
  | .error stop, after => .error stop after

theorem run_slice {count : Nat} {buffer : Bytes} (fits : count ≤ buffer.length)
    (before : Buffered) : (slice count buffer).run before = .ok (buffer.take count) before := by
  rw [slice, if_pos fits, EStateM.run_pure]

theorem run_setAhead (change : Change) (held : Bytes) (before : Buffered) :
    (setAhead change held).run before =
      .ok () { before with ahead := held, events := before.events ++ [.ahead change held] } :=
  EStateM.run_modify _ _

/-- A reader after all bytes read ahead were taken. -/
def emptied (change : Change) (before : Buffered) : Buffered :=
  { before with ahead := [], events := before.events ++ [.ahead change []] }

theorem run_takeAhead (change : Change) {count : Nat} {before : Buffered}
    (all : before.ahead.length = count) :
    (takeAhead change count).run before = .ok before.ahead (before.emptied change) := by
  simp only [takeAhead, EStateM.run_bind, EStateM.run_get, run_slice (Nat.le_of_eq all.symm),
    run_setAhead, EStateM.run_pure, emptied]
  rw [List.take_of_length_le (Nat.le_of_eq all), List.drop_of_length_le (Nat.le_of_eq all)]

/-- A read into a slice of a buffer puts the bytes that it gives at the front of the buffer. -/
theorem run_readSome (limits : Limits) (part : Part) (held : Nat) {room : Nat} {buffer : Bytes}
    (fits : room ≤ buffer.length) {before : Buffered} {answer : Except Stop Bytes} {rest : Source}
    (read : before.source.readInto limits.readTimeout room = (answer, rest))
    (within : ∀ given, answer = .ok given → given.length ≤ room) :
    (readSome limits part held room buffer).run before =
      ended (answer.map fun given => (given.length, given ++ buffer.drop given.length))
        (before.told ⟨part, held, room, before.source, answer⟩ rest) := by
  simp only [readSome, EStateM.run_bind, EStateM.run_get, run_slice fits, EStateM.run_modify, read]
  cases answer with
  | error stop => rfl
  | ok given =>
      have bounded := within given rfl
      have space : (buffer.take room).length = room := List.length_take_of_le fits
      have whole : given ++ (buffer.take room).drop given.length ++ buffer.drop room =
          given ++ buffer.drop given.length := by
        rw [List.append_assoc, ← List.drop_append_of_le_length (by omega), List.take_append_drop]
      rw [EStateM.run_bind, copyInto, if_pos (by omega), EStateM.run_pure]
      simp only [EStateM.run_pure, whole]
      rfl

theorem run_readSome_of_given (limits : Limits) (part : Part) (held : Nat) {room : Nat}
    {buffer given : Bytes} (fits : room ≤ buffer.length) (positive : 0 < room) {before : Buffered}
    {rest : Source} (read : before.source.read? room = some (given, rest)) :
    (readSome limits part held room buffer).run before =
      .ok (given.length, given ++ buffer.drop given.length)
        (before.told ⟨part, held, room, before.source, .ok given⟩ rest) := by
  have bounded := (Source.read?_bounds read positive).2
  refine run_readSome limits part held fits
    (Source.readInto_of_given read positive limits.readTimeout) (fun found answered => ?_)
  cases answered
  exact bounded

theorem run_readSome_of_empty (limits : Limits) (part : Part) (held : Nat) {room : Nat}
    {buffer : Bytes} (fits : room ≤ buffer.length) (positive : 0 < room) {before : Buffered}
    (empty : before.source.unread = []) :
    (readSome limits part held room buffer).run before =
      ended ((before.source.ending.answer limits.readTimeout).map fun _ => (0, buffer))
        (before.told ⟨part, held, room, before.source,
          before.source.ending.answer limits.readTimeout⟩ before.source) := by
  rw [run_readSome limits part held fits
    (Source.readInto_of_empty empty positive limits.readTimeout) (Ending.length_le_of_answer room)]
  cases answered : before.source.ending.answer limits.readTimeout with
  | error stop => rfl
  | ok given =>
      rw [(Ending.answer_eq_ok_iff.mp answered).2]
      rfl

section TopUp

variable (limits : Limits) {part : Part} (isAhead : part.isAhead = true) {before : Buffered}
  (short : before.ahead.length < part.size)

include isAhead in
/-- A read ahead goes into a buffer that has the room for all that is missing. -/
theorem fits_topUp : part.room limits before.ahead.length ≤
    (List.replicate headerSize (0 : UInt8)).length := by
  have small := Part.size_le_of_isAhead isAhead
  have most := Part.room_le limits part before.ahead.length
  rw [List.length_replicate]
  omega

include isAhead short

theorem run_topUp_of_given {given : Bytes} {rest : Source}
    (read : before.source.read? (part.room limits before.ahead.length) = some (given, rest)) :
    (topUp limits part).run before =
      .ok true ⟨before.ahead ++ given, rest, before.events ++
        part.request limits before.ahead before.source (.ok given) ::
          part.noted (before.ahead ++ given)⟩ := by
  have positive := Part.room_pos limits short
  have some := (Source.read?_bounds read positive).1
  have asked := Part.room_of_isAhead limits isAhead before.ahead.length
  have ran := run_readSome_of_given limits part before.ahead.length (fits_topUp limits isAhead)
    positive read
  simp only [topUp, EStateM.run_bind, EStateM.run_get, ← asked, ran]
  rw [if_neg (Nat.ne_of_gt some), EStateM.run_bind, run_slice (by simp)]
  simp only [List.take_left, EStateM.run_bind, run_setAhead, EStateM.run_pure, told,
    List.append_assoc, List.singleton_append, Part.noted, if_pos isAhead]
  rfl

theorem run_topUp_of_empty (empty : before.source.unread = []) :
    (topUp limits part).run before =
      ended ((before.source.ending.answer limits.readTimeout).map fun _ => false)
        ⟨before.ahead, before.source, before.events ++ [part.request limits before.ahead
          before.source (before.source.ending.answer limits.readTimeout)]⟩ := by
  have positive := Part.room_pos limits short
  have asked := Part.room_of_isAhead limits isAhead before.ahead.length
  have ran := run_readSome_of_empty limits part before.ahead.length (fits_topUp limits isAhead)
    positive empty
  simp only [topUp, EStateM.run_bind, EStateM.run_get, ← asked, ran]
  cases before.source.ending.answer limits.readTimeout <;> rfl

end TopUp

section Draw

variable (limits : Limits) {length : Nat} {payload chunk : Bytes}
  (sized : chunk.length = min limits.chunk length) {before : Buffered}
  (short : payload.length < length)

include sized in
/-- A read of a payload asks for what is missing, as far as the chunk has room. -/
theorem room_draw (payload : Bytes) : min (length - payload.length) chunk.length =
    (Part.payload length).room limits payload.length := by
  simp only [Part.room, Part.isAhead, Part.size, Bool.false_eq_true, if_false]
  omega

include sized in
theorem fits_draw (payload : Bytes) :
    (Part.payload length).room limits payload.length ≤ chunk.length :=
  room_draw limits sized payload ▸ Nat.min_le_right _ _

include sized short

theorem run_draw_of_given {given : Bytes} {rest : Source}
    (read : before.source.read? ((Part.payload length).room limits payload.length) =
      some (given, rest)) :
    (draw limits length payload chunk).run before =
      .ok (payload ++ given, given ++ chunk.drop given.length) ⟨before.ahead, rest, before.events ++
        [(Part.payload length).request limits payload before.source (.ok given)]⟩ := by
  have unfinished : payload.length < (Part.payload length).size := short
  have positive := Part.room_pos limits unfinished
  have asked := room_draw limits sized payload
  have fits := fits_draw limits sized payload
  have some := (Source.read?_bounds read positive).1
  have ran := run_readSome_of_given limits (.payload length) payload.length fits positive read
  simp only [draw, EStateM.run_bind, asked, ran]
  rw [if_neg (Nat.ne_of_gt some), EStateM.run_bind, run_slice (by simp)]
  simp only [List.take_left, EStateM.run_pure, told]
  rfl

theorem run_draw_of_empty (empty : before.source.unread = []) :
    (draw limits length payload chunk).run before =
      .error (match before.source.ending.answer limits.readTimeout with
        | .ok _ => .failed (.midFrame payload.length length)
        | .error stop => stop) ⟨before.ahead, before.source, before.events ++
          [(Part.payload length).request limits payload before.source
            (before.source.ending.answer limits.readTimeout)]⟩ := by
  have unfinished : payload.length < (Part.payload length).size := short
  have positive := Part.room_pos limits unfinished
  have asked := room_draw limits sized payload
  have fits := fits_draw limits sized payload
  have ran := run_readSome_of_empty limits (.payload length) payload.length fits positive empty
  simp only [draw, EStateM.run_bind, asked, ran]
  cases before.source.ending.answer limits.readTimeout <;> rfl

end Draw

end Buffered

/-! ### Loops -/

/-- How a loop ends that holds some bytes of its part, and what it records last. Where no byte is
unread, it makes one read more, and ends whatever that answers. -/
inductive Ends (limits : Limits) (part : Part) (held : Bytes) (source : Source) :
    List Event → Except Stop Bool → Prop where
  | complete (enough : part.size ≤ held.length) : Ends limits part held source [] (.ok true)
  | empty (short : held.length < part.size) (empty : source.unread = []) :
      Ends limits part held source
        [part.request limits held source (source.ending.answer limits.readTimeout)]
        ((source.ending.answer limits.readTimeout).map fun _ => false)

/-- The course of a loop: from the bytes that it begins with and the stream, by what it records, to
the bytes that it ends with, the rest of the stream and how it ends. -/
inductive Fetches (limits : Limits) (part : Part) :
    Bytes → Source → List Event → Bytes → Source → Except Stop Bool → Prop where
  | ends {held : Bytes} {source : Source} {events : List Event} {outcome : Except Stop Bool}
      (ends : Ends limits part held source events outcome) :
      Fetches limits part held source events held source outcome
  | more {held given heldAfter : Bytes} {source rest sourceAfter : Source} {events : List Event}
      {outcome : Except Stop Bool} (short : held.length < part.size)
      (read : source.read? (part.room limits held.length) = some (given, rest))
      (later : Fetches limits part (held ++ given) rest events heldAfter sourceAfter outcome) :
      Fetches limits part held source
        (part.request limits held source (.ok given) :: part.noted (held ++ given) ++ events)
        heldAfter sourceAfter outcome

namespace Buffered

theorem run_fill_of_enough (limits : Limits) {part : Part} {before : Buffered}
    (enough : part.size ≤ before.ahead.length) :
    (fill limits part).run before = .ok true before := by
  rw [EStateM.run, fill, if_neg (Nat.not_lt.mpr enough)]

theorem run_fill_of_short (limits : Limits) {part : Part} {before : Buffered}
    (short : before.ahead.length < part.size) :
    (fill limits part).run before =
      match (topUp limits part).run before with
      | .ok true after => (fill limits part).run after
      | .ok false after => .ok false after
      | .error stop after => .error stop after := by
  rw [EStateM.run, fill, if_pos short]
  split <;> rename_i topped <;> rw [topped]
  rfl

/-- Reading ahead takes the course of a loop. -/
theorem fill_fetches (limits : Limits) (part : Part) (isAhead : part.isAhead = true)
    (before : Buffered) :
    ∃ events after outcome,
      Fetches limits part before.ahead before.source events after.ahead after.source outcome ∧
      after.events = before.events ++ events ∧
      (fill limits part).run before = ended outcome after := by
  induction missing : part.size - before.ahead.length using Nat.strongRecOn generalizing before with
  | ind missing inductionHypothesis =>
      by_cases short : before.ahead.length < part.size
      case neg =>
        have enough := Nat.le_of_not_lt short
        exact ⟨[], before, _, .ends (.complete enough), (List.append_nil _).symm,
          run_fill_of_enough limits enough⟩
      case pos =>
        have positive := Part.room_pos limits short
        rw [run_fill_of_short limits short]
        cases read : before.source.read? (part.room limits before.ahead.length) with
        | some found =>
            -- Whatever the stream gives, less is missing afterwards.
            obtain ⟨given, rest⟩ := found
            have some := (Source.read?_bounds read positive).1
            rw [run_topUp_of_given limits isAhead short read]
            obtain ⟨events, after, outcome, later, told, ran⟩ := inductionHypothesis _
              (by rw [← missing]; simp only [List.length_append]; omega)
              ⟨before.ahead ++ given, rest, before.events ++
                part.request limits before.ahead before.source (.ok given) ::
                  part.noted (before.ahead ++ given)⟩ rfl
            refine ⟨_, after, outcome, .more short read later, ?_, ran⟩
            rw [told, List.append_assoc]
        | none =>
            have empty := Source.read?_eq_none_iff.mp read
            rw [run_topUp_of_empty limits isAhead short empty]
            refine ⟨_, ⟨before.ahead, before.source, before.events ++ _⟩, _,
              .ends (.empty short empty), rfl, ?_⟩
            cases before.source.ending.answer limits.readTimeout <;> rfl

theorem run_gather_of_enough (limits : Limits) {length : Nat} {payload : Bytes} (chunk : Bytes)
    {before : Buffered} (enough : length ≤ payload.length) :
    (gather limits length payload chunk).run before = .ok payload before := by
  rw [EStateM.run, gather, if_neg (Nat.not_lt.mpr enough)]

theorem run_gather_of_short (limits : Limits) {length : Nat} {payload : Bytes} (chunk : Bytes)
    {before : Buffered} (short : payload.length < length) :
    (gather limits length payload chunk).run before =
      match (draw limits length payload chunk).run before with
      | .ok (longer, chunk) after => (gather limits length longer chunk).run after
      | .error stop after => .error stop after := by
  rw [EStateM.run, gather, if_pos short]
  split <;> rename_i drawn <;> rw [drawn]
  rfl

/-- What comes after a loop: one thing where it holds all of its part, another where the stream has
ended. -/
def resumed {α : Type} (after : Buffered) (whole : EStateM.Result Stop Buffered α)
    (atEnd : Except Stop α) : Except Stop Bool → EStateM.Result Stop Buffered α
  | .ok true => whole
  | .ok false => ended atEnd after
  | .error stop => .error stop after

/-- Reading a payload takes the course of a loop, and leaves the bytes read ahead alone. What
earlier reads left in the chunk does not matter. -/
theorem gather_fetches (limits : Limits) (length : Nat) (payload chunk : Bytes)
    (sized : chunk.length = min limits.chunk length) (before : Buffered) :
    ∃ events gathered after outcome,
      Fetches limits (.payload length) payload before.source events gathered after.source outcome ∧
      after.ahead = before.ahead ∧ after.events = before.events ++ events ∧
      (gather limits length payload chunk).run before =
        resumed after (.ok gathered after) (.error (.failed (.midFrame gathered.length length)))
          outcome := by
  induction missing : length - payload.length using Nat.strongRecOn
    generalizing payload chunk before with
  | ind missing inductionHypothesis =>
      by_cases short : payload.length < length
      case neg =>
        have enough := Nat.le_of_not_lt short
        exact ⟨[], payload, before, _, .ends (.complete enough), rfl, (List.append_nil _).symm,
          run_gather_of_enough limits chunk enough⟩
      case pos =>
        have unfinished : payload.length < (Part.payload length).size := short
        have positive := Part.room_pos limits unfinished
        rw [run_gather_of_short limits chunk short]
        cases read : before.source.read? ((Part.payload length).room limits payload.length) with
        | some found =>
            obtain ⟨given, rest⟩ := found
            obtain ⟨some, within⟩ := Source.read?_bounds read positive
            have fits := Nat.le_trans within (fits_draw limits sized payload)
            rw [run_draw_of_given limits sized short read]
            obtain ⟨events, gathered, after, outcome, later, kept, told, ran⟩ :=
              inductionHypothesis _ (by rw [← missing]; simp only [List.length_append]; omega)
                (payload ++ given) (given ++ chunk.drop given.length)
                (by rw [List.length_append, List.length_drop]; omega)
                ⟨before.ahead, rest, before.events ++
                  [(Part.payload length).request limits payload before.source (.ok given)]⟩ rfl
            refine ⟨_, gathered, after, outcome, .more short read later, kept, ?_, ran⟩
            rw [told, List.append_assoc]
            rfl
        | none =>
            have empty := Source.read?_eq_none_iff.mp read
            rw [run_draw_of_empty limits sized short empty]
            refine ⟨_, payload, ⟨before.ahead, before.source, before.events ++ _⟩, _,
              .ends (.empty short empty), rfl, rfl, ?_⟩
            cases before.source.ending.answer limits.readTimeout <;> rfl

end Buffered

end MetricIntake.Frame
