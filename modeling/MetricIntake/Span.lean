import MetricIntake.Number.Decimal

/-!
Contract: lengths of time, and the text they have in messages.

Owns:
- spans counted in nanoseconds, and the longest one there is;
- doubling that stops at the longest span;
- the text in the greatest unit that the span reaches, without trailing zeros.

Does not own: any clock; the operations that depend on time take the present instant as a span
since the start.
-/

namespace MetricIntake

/-- A length of time in nanoseconds. -/
structure Span where
  nanoseconds : Nat
deriving DecidableEq, Repr, Inhabited

namespace Span

def ofMilliseconds (count : Nat) : Span := ⟨count * 1000000⟩

def ofSeconds (count : Nat) : Span := ⟨count * 1000000000⟩

def milliseconds (span : Span) : Nat := span.nanoseconds / 1000000

/-- The longest span: 64 bits of seconds and just under a second. -/
def longest : Span := ⟨18446744073709551615 * 1000000000 + 999999999⟩

def shorter (left right : Span) : Span := ⟨min left.nanoseconds right.nanoseconds⟩

def longer (left right : Span) : Span := ⟨max left.nanoseconds right.nanoseconds⟩

/-- Twice a span, but never beyond the longest. -/
def double (span : Span) : Span := shorter ⟨2 * span.nanoseconds⟩ longest

/-- The time from an earlier instant to a later one, both given as spans since the start; nothing
when the order is reversed. -/
def since (later earlier : Span) : Span := ⟨later.nanoseconds - earlier.nanoseconds⟩

def trimZeros (digits : List Nat) : List Nat :=
  (digits.reverse.dropWhile (· = 0)).reverse

/-- A count of units of `10 ^ -places`, with as many decimals as it needs, and the unit's name. -/
def inUnit (places count : Nat) (name : String) : String :=
  let decimals := trimZeros (Decimal.lowestDigits places count)
  let point := if decimals.isEmpty then [] else '.' :: decimals.map Decimal.digitChar
  String.ofList (Decimal.natChars (count / Decimal.power places) ++ point) ++ name

/-- The text of a span: seconds from a second on, else milliseconds, microseconds or
nanoseconds, each from one of its units on. -/
def text (span : Span) : String :=
  let count := span.nanoseconds
  if 1000000000 ≤ count then inUnit 9 count "s"
  else if 1000000 ≤ count then inUnit 6 count "ms"
  else if 1000 ≤ count then inUnit 3 count "µs"
  else inUnit 0 count "ns"

end Span

end MetricIntake
