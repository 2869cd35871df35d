import MetricIntake.Proofs.Frame.Loops

/-!
Contract: what the loops that read through buffers ask for, record and take.

Owns:
- which reads are sound and which changes of the bytes read ahead are safe;
- how many reads a loop makes of its part;
- how many bytes a loop takes from the stream.

Does not own: what a call comes to.
-/

set_option autoImplicit false

namespace MetricIntake.Frame

/-! ### What a loop keeps -/

/-- A read asks for at least one byte and for no more than is missing of its part. It gives no byte
exactly if the stream has ended and all of it was read. -/
structure Request.IsSound (request : Request) : Prop where
  least : 1 ≤ request.room
  most : request.room ≤ request.part.size - request.held
  empty : request.answer = .ok [] ↔ request.source.unread = [] ∧ request.source.ending = .closed

/-- No more bytes than a header has are ever read ahead, and none when the header has been taken. -/
def Event.IsSafe : Event → Prop
  | .read request => request.IsSound
  | .ahead change held => held.length ≤ headerSize ∧ (change = .headerTaken → held = [])

/-- Whether an event is a read of a given part. -/
def Event.isReadOf (part : Part) : Event → Bool
  | .read request => request.part = part
  | .ahead _ _ => false

def readCount (part : Part) (events : List Event) : Nat :=
  events.countP (Event.isReadOf part)

/-- The bytes that an event gave. -/
def Event.given : Event → Bytes
  | .read request => request.answer.toOption.getD []
  | .ahead _ _ => []

/-- The bytes that the reads among some events gave. -/
def given (events : List Event) : Bytes :=
  events.flatMap Event.given

/-- The bytes read ahead after an event. -/
def Event.follow (ahead : Bytes) : Event → Bytes
  | .read _ => ahead
  | .ahead _ held => held

/-- What happens between two points of a call is recorded: the bytes that the reads gave have left
the stream, and the bytes read ahead are those of the last change. What is recorded is safe; so many
reads are made of each part, and so many bytes are given, at most. -/
structure Stretch (reads : Part → Nat) (bytes : Nat) (before : Buffered) (events : List Event)
    (after : Buffered) : Prop where
  told : after.events = before.events ++ events
  taken : before.source.unread = given events ++ after.source.unread
  held : events.foldl Event.follow before.ahead = after.ahead
  safe : ∀ event ∈ events, event.IsSafe
  reads : ∀ part, readCount part events ≤ reads part
  bytes : (given events).length ≤ bytes

/-- A number for one part, and zero for all others. -/
def Part.only (part : Part) (number : Nat) : Part → Nat := fun other =>
  if other = part then number else 0

namespace Stretch

variable {reads more : Part → Nat} {bytes moreBytes : Nat} {before between after : Buffered}
  {first later : List Event}

theorem append (front : Stretch reads bytes before first between)
    (back : Stretch more moreBytes between later after) :
    Stretch (fun part => reads part + more part) (bytes + moreBytes) before (first ++ later)
      after where
  told := by rw [back.told, front.told, List.append_assoc]
  taken := by
    rw [front.taken, back.taken, ← List.append_assoc, given, given, given, List.flatMap_append]
  held := by rw [List.foldl_append, front.held, back.held]
  safe := List.forall_mem_append.mpr ⟨front.safe, back.safe⟩
  reads part := by
    rw [readCount, List.countP_append]
    exact Nat.add_le_add (front.reads part) (back.reads part)
  bytes := by
    rw [given, List.flatMap_append, List.length_append]
    exact Nat.add_le_add front.bytes back.bytes

theorem nil (before : Buffered) : Stretch (fun _ => 0) 0 before [] before where
  told := (List.append_nil _).symm
  taken := rfl
  held := rfl
  safe := List.forall_mem_nil _
  reads _ := Nat.le_refl 0
  bytes := Nat.le_refl 0

theorem emptied (change : Change) (before : Buffered) :
    Stretch (fun _ => 0) 0 before [.ahead change []] (before.emptied change) where
  told := rfl
  taken := rfl
  held := rfl
  safe := List.forall_mem_singleton.mpr ⟨Nat.zero_le headerSize, fun _ => rfl⟩
  reads _ := Nat.le_refl 0
  bytes := Nat.le_refl 0

theorem mono (stretch : Stretch reads bytes before first after)
    (le : ∀ part, reads part ≤ more part) (leBytes : bytes ≤ moreBytes) :
    Stretch more moreBytes before first after where
  told := stretch.told
  taken := stretch.taken
  held := stretch.held
  safe := stretch.safe
  reads part := Nat.le_trans (stretch.reads part) (le part)
  bytes := Nat.le_trans stretch.bytes leBytes

end Stretch

section Loops

variable {limits : Limits} {part : Part} {held heldAfter : Bytes} {source sourceAfter : Source}
  {events : List Event} {outcome : Except Stop Bool}

theorem Ends.size_le (ends : Ends limits part held source events outcome)
    (complete : outcome = .ok true) : part.size ≤ held.length := by
  cases ends with
  | complete enough => exact enough
  | empty short empty =>
      cases answered : source.ending.answer limits.readTimeout <;>
        simp [answered, Except.map] at complete

theorem Ends.lt_size (ends : Ends limits part held source events outcome)
    (early : outcome ≠ .ok true) : held.length < part.size := by
  cases ends with
  | complete enough => exact absurd rfl early
  | empty short empty => exact short

theorem Fetches.ended
    (fetches : Fetches limits part held source events heldAfter sourceAfter outcome) :
    ∃ last, Ends limits part heldAfter sourceAfter last outcome := by
  induction fetches with
  | ends ends => exact ⟨_, ends⟩
  | more _ _ _ inductionHypothesis => exact inductionHypothesis

theorem given_request (answer : Except Stop Bytes) (later : List Event) :
    given (part.request limits held source answer :: later) =
      answer.toOption.getD [] ++ given later :=
  rfl

theorem given_noted (later : List Event) : given (part.noted held ++ later) = given later := by
  unfold Part.noted
  split <;> rfl

theorem Ends.given_eq_nil (ends : Ends limits part held source events outcome) :
    given events = [] := by
  cases ends with
  | complete enough => rfl
  | empty short empty =>
      rw [given_request]
      cases answered : source.ending.answer limits.readTimeout with
      | error stop => rfl
      | ok found =>
          rw [(Ending.answer_eq_ok_iff.mp answered).2]
          rfl

/-- A loop holds in the end what its reads gave, which is what has left the stream. -/
theorem Fetches.gathered
    (fetches : Fetches limits part held source events heldAfter sourceAfter outcome) :
    heldAfter = held ++ given events ∧ source.unread = given events ++ sourceAfter.unread := by
  induction fetches with
  | ends ends =>
      rw [ends.given_eq_nil, List.append_nil]
      exact ⟨rfl, rfl⟩
  | @more held found heldAfter source rest sourceAfter events outcome short read _
      inductionHypothesis =>
      obtain ⟨holds, unread⟩ := inductionHypothesis
      rw [List.cons_append, given_request, given_noted]
      constructor
      · rw [holds, List.append_assoc]
        rfl
      · rw [← Source.read?_unread read, unread, List.append_assoc]
        rfl

/-- A loop holds no more than its part has. -/
theorem Fetches.length_le
    (fetches : Fetches limits part held source events heldAfter sourceAfter outcome)
    (within : held.length ≤ part.size) : heldAfter.length ≤ part.size := by
  induction fetches with
  | ends _ => exact within
  | @more held _ _ _ _ _ _ _ short read _ inductionHypothesis =>
      have bounded := (Source.read?_bounds read (Part.room_pos limits short)).2
      have asked := Part.room_le limits part held.length
      apply inductionHypothesis
      rw [List.length_append]
      omega

/-- A loop that reads ahead records all that it holds. -/
theorem Fetches.follow_of_isAhead
    (fetches : Fetches limits part held source events heldAfter sourceAfter outcome)
    (isAhead : part.isAhead = true) : events.foldl Event.follow held = heldAfter := by
  induction fetches with
  | ends ends => cases ends <;> rfl
  | more short read _ inductionHypothesis =>
      rw [← inductionHypothesis, Part.noted, if_pos isAhead]
      rfl

/-- A loop that reads a payload leaves the bytes read ahead alone. -/
theorem Fetches.follow_of_not_isAhead
    (fetches : Fetches limits part held source events heldAfter sourceAfter outcome)
    (isAhead : part.isAhead = false) (ahead : Bytes) : events.foldl Event.follow ahead = ahead := by
  have elsewhere : ¬part.isAhead = true := Bool.eq_false_iff.mp isAhead
  induction fetches with
  | ends ends => cases ends <;> rfl
  | more short read _ inductionHypothesis =>
      rw [Part.noted, if_neg elsewhere]
      exact inductionHypothesis

theorem request_isSafe {answer : Except Stop Bytes} (short : held.length < part.size)
    (empty : answer = .ok [] ↔ source.unread = [] ∧ source.ending = .closed) :
    (part.request limits held source answer).IsSafe where
  least := Part.room_pos limits short
  most := Part.room_le limits part held.length
  empty := empty

theorem noted_isSafe (within : held.length ≤ part.size) :
    ∀ event ∈ part.noted held, event.IsSafe := by
  unfold Part.noted
  split
  · rename_i isAhead
    have small := Part.size_le_of_isAhead isAhead
    exact List.forall_mem_singleton.mpr ⟨Nat.le_trans within small, nofun⟩
  · exact List.forall_mem_nil _

theorem readCount_request (other : Part) (answer : Except Stop Bytes) (later : List Event) :
    readCount other (part.request limits held source answer :: later) =
      part.only 1 other + readCount other later := by
  rw [readCount, List.countP_cons, Nat.add_comm, Part.only]
  congr 1
  simp [Event.isReadOf, Part.request, eq_comm]

theorem readCount_noted (other : Part) (later : List Event) :
    readCount other (part.noted held ++ later) = readCount other later := by
  unfold Part.noted
  split <;> rfl

/-- **A loop makes no more reads than bytes are missing when it begins.** Every read but the last
gives some byte. -/
theorem Fetches.readCount_le
    (fetches : Fetches limits part held source events heldAfter sourceAfter outcome)
    (other : Part) : readCount other events ≤ part.only (part.size - held.length) other := by
  induction fetches with
  | ends ends =>
      cases ends with
      | complete _ => exact Nat.zero_le _
      | empty short _ =>
          rw [readCount_request]
          simp only [Part.only, readCount, List.countP_nil]
          split <;> omega
  | more short read _ inductionHypothesis =>
      have some := (Source.read?_bounds read (Part.room_pos limits short)).1
      rw [List.cons_append, readCount_request, readCount_noted]
      simp only [Part.only, List.length_append] at inductionHypothesis ⊢
      split at inductionHypothesis <;> rename_i same
      · rw [if_pos same, if_pos same]
        omega
      · rw [if_neg same, if_neg same]
        omega

theorem Fetches.safe
    (fetches : Fetches limits part held source events heldAfter sourceAfter outcome)
    (within : held.length ≤ part.size) : ∀ event ∈ events, event.IsSafe := by
  induction fetches with
  | ends ends =>
      cases ends with
      | complete _ => exact List.forall_mem_nil _
      | @empty short empty =>
          refine List.forall_mem_singleton.mpr (request_isSafe short ?_)
          rw [Ending.answer_eq_ok_iff]
          simp [empty]
  | @more held given heldAfter source rest sourceAfter events outcome short read later
      inductionHypothesis =>
      obtain ⟨some, bounded⟩ := Source.read?_bounds read (Part.room_pos limits short)
      have asked := Part.room_le limits part held.length
      have longer : (held ++ given).length ≤ part.size := by
        rw [List.length_append]
        omega
      rw [List.cons_append, List.forall_mem_cons, List.forall_mem_append]
      refine ⟨request_isSafe short ?_, noted_isSafe longer, inductionHypothesis longer⟩
      have unread : source.unread ≠ [] := by
        rw [← Source.read?_unread read]
        exact List.append_ne_nil_of_left_ne_nil (List.ne_nil_of_length_pos some) _
      simp [unread, List.ne_nil_of_length_pos some]

/-- What a loop records and takes: it asks for what is missing and for no more. -/
theorem Fetches.stretch {before after : Buffered}
    (fetches : Fetches limits part held before.source events heldAfter after.source outcome)
    (within : held.length ≤ part.size) (told : after.events = before.events ++ events)
    (follows : events.foldl Event.follow before.ahead = after.ahead) :
    Stretch (part.only (part.size - held.length)) (part.size - held.length) before events
      after where
  told := told
  taken := fetches.gathered.2
  held := follows
  safe := fetches.safe within
  reads := fetches.readCount_le
  bytes := by
    have bounded := fetches.length_le within
    rw [fetches.gathered.1, List.length_append] at bounded
    omega

end Loops

end MetricIntake.Frame
