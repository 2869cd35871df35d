import MetricIntake.Span

/-!
Contract: how long an accept loop pauses after failures.

Owns:
- the first and the greatest pause, and their normal form;
- the pause that follows another, which doubles until the greatest;
- the pause after each outcome of a sequence of attempts.

Does not own: the attempts.
-/

namespace MetricIntake

/-- The first and the greatest pause. -/
structure Backoff where
  initial : Span
  longest : Span
deriving DecidableEq, Repr

namespace Backoff

def default : Backoff := ⟨.ofMilliseconds 10, .ofSeconds 1⟩

def shortest : Span := .ofMilliseconds 1

/-- Both pauses at least the shortest, and the first not above the greatest. -/
def normalized (backoff : Backoff) : Backoff :=
  let first := Span.longer backoff.initial shortest
  let second := Span.longer backoff.longest shortest
  ⟨Span.shorter first second, Span.longer first second⟩

def next (backoff : Backoff) (pause : Span) : Span :=
  Span.shorter pause.double backoff.longest

def pauses (backoff : Backoff) : (count : Nat) → (pause : Span) → List Span
  | 0, _ => []
  | count + 1, pause =>
      let following := backoff.next pause
      following :: pauses backoff count following

/-- The pause that an accept loop keeps after an attempt: the first one after a success, the
following one after a failure. -/
def afterAttempt (backoff : Backoff) (pause : Span) (succeeded : Bool) : Span :=
  if succeeded then backoff.initial else backoff.next pause

/-- The pause that an accept loop keeps after a sequence of attempts, which is how long it pauses
should the next one fail. It goes by the normal form and starts with the first pause of that. -/
def afterAttempts (backoff : Backoff) (attempts : List Bool) : Span :=
  attempts.foldl backoff.normalized.afterAttempt backoff.normalized.initial

end Backoff

end MetricIntake
