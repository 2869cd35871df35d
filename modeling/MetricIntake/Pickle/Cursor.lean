import MetricIntake.Pickle.Fault

/-!
Contract: reading arguments from the front of a payload.

Owns:
- the position in a payload: how much was consumed and what is left;
- arguments of fixed size, of counted size and of one line.

Does not own: which instruction has which arguments.
-/

namespace MetricIntake.Pickle

/-- A position in a payload. -/
structure Cursor where
  offset : Nat
  rest : Bytes
deriving Repr

namespace Cursor

def fault (cursor : Cursor) (cause : EvaluationFault) : Fault :=
  .evaluation cursor.offset cause

/-- The next `count` bytes; there must be so many. -/
def take (count : Nat) (cursor : Cursor) : Except Fault (Bytes × Cursor) :=
  match Bytes.split? count cursor.rest with
  | some (front, rest) => .ok (front, ⟨cursor.offset + count, rest⟩)
  | none => .error .endOfInput

/-- An unsigned number of `width` bytes, least significant first. -/
def number (width : Nat) (cursor : Cursor) : Except Fault (Nat × Cursor) := do
  let (bytes, cursor) ← cursor.take width
  return (Bytes.ofLittleEndian bytes, cursor)

/-- A signed number of `width` bytes, least significant first. -/
def signedNumber (width : Nat) (cursor : Cursor) : Except Fault (Int × Cursor) := do
  let (bytes, cursor) ← cursor.take width
  return (Bytes.ofTwosComplement bytes, cursor)

def lineFeed : UInt8 := 10

def carriageReturn : UInt8 := 13

def dropCarriageReturn (line : Bytes) : Bytes :=
  if line.getLast? = some carriageReturn then line.dropLast else line

/-- The next line. Its last byte is taken for the line feed and removed, also where the payload
ends without one, and then one carriage return is. -/
def line (cursor : Cursor) : Bytes × Cursor :=
  let front := cursor.rest.takeWhile (· ≠ lineFeed)
  match cursor.rest.dropWhile (· ≠ lineFeed) with
  | [] => (dropCarriageReturn front.dropLast, ⟨cursor.offset + front.length, []⟩)
  | _ :: rest => (dropCarriageReturn front, ⟨cursor.offset + front.length + 1, rest⟩)

/-- Bytes after their count, an unsigned number of `width` bytes. -/
def counted (width : Nat) (cursor : Cursor) : Except Fault (Bytes × Cursor) := do
  let (count, cursor) ← cursor.number width
  cursor.take count

/-- Bytes after their count, a signed number of four bytes that must not be negative. -/
def signedCounted (cursor : Cursor) : Except Fault (Bytes × Cursor) := do
  let (count, cursor) ← cursor.signedNumber 4
  if count < 0 then throw (cursor.fault .negativeLength)
  cursor.take count.toNat

end Cursor

end MetricIntake.Pickle
