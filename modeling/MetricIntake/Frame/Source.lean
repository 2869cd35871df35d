import MetricIntake.Bytes

/-!
Contract: the byte stream of one connection, as far as it has arrived.

Owns:
- the bytes that have arrived and were not read, and how the stream goes on after them;
- one read, which gives at least one byte and at most as many as it was asked for, as the network,
  or a buffer in front of it, happens to cut the stream.

Does not own: what the bytes mean, or how long a read waits.
-/

namespace MetricIntake.Frame

/-- What follows the bytes that have arrived. -/
inductive Ending where
  /-- More may follow; nothing is there now. -/
  | pending
  /-- The sender has closed its side. -/
  | closed
  /-- Every further read fails. -/
  | failed (message : String)
  /-- Nothing will ever follow, not even an end. -/
  | silent
deriving DecidableEq, Repr

/-- A stream. -/
structure Source where
  /-- Bytes that arrived and were not read. -/
  unread : Bytes
  /-- The sizes that the network gives to the next reads; when they run out, a read gets as much as
  it asks for. -/
  cuts : List Nat
  /-- What follows. -/
  ending : Ending
deriving DecidableEq, Repr

namespace Source

/-- How many bytes the next read gets, out of those that are there. -/
def grant (source : Source) (wanted : Nat) : Nat :=
  max 1 (min wanted (source.cuts.headD wanted))

/-- One read. Nothing where no byte has arrived. -/
def read? (source : Source) (wanted : Nat) : Option (Bytes × Source) :=
  if source.unread.isEmpty then none
  else
    let (chunk, rest) := source.unread.splitAt (source.grant wanted)
    some (chunk, { source with unread := rest, cuts := source.cuts.tail })

def receive (source : Source) (bytes : Bytes) : Source :=
  { source with unread := source.unread ++ bytes }

theorem read?_unread {source rest : Source} {wanted : Nat} {chunk : Bytes}
    (outcome : source.read? wanted = some (chunk, rest)) :
    chunk ++ rest.unread = source.unread := by
  unfold read? at outcome
  split at outcome
  · simp at outcome
  · simp only [List.splitAt_eq, Option.some.injEq, Prod.mk.injEq] at outcome
    obtain ⟨rfl, rfl⟩ := outcome
    simp

theorem read?_shorter {source rest : Source} {wanted : Nat} {chunk : Bytes}
    (outcome : source.read? wanted = some (chunk, rest)) :
    rest.unread.length < source.unread.length := by
  unfold read? at outcome
  split at outcome
  · simp at outcome
  · rename_i nonempty
    simp only [List.splitAt_eq, Option.some.injEq, Prod.mk.injEq] at outcome
    obtain ⟨_, rfl⟩ := outcome
    have positive : 0 < source.unread.length := by
      cases hUnread : source.unread with
      | nil => simp [hUnread] at nonempty
      | cons _ _ => simp
    have granted : 1 ≤ source.grant wanted := Nat.le_max_left _ _
    simp only [List.length_drop]
    omega

end Source

end MetricIntake.Frame
