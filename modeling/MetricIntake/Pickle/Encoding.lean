import MetricIntake.Value
import MetricIntake.Text.Utf8

/-!
Contract: values as payloads.

Owns:
- the payload that a sender writes for a value: the header of protocol 2, the instructions of the
  value, and the end;
- the limits of the fields that hold lengths.

Does not own: the frame around a payload.
-/

namespace MetricIntake.Pickle

/-- Why a value has no payload. -/
inductive EncodeError where
  | longText
  | longBytes
  | longInteger
  | set
deriving DecidableEq, Repr

def EncodeError.message : EncodeError → String
  | .longText => "text fits in a u32 length"
  | .longBytes => "short byte string"
  | .longInteger => "LONG1 holds at most 255 bytes"
  | .set => "set encoding is not supported by the test encoder"

namespace Encoding

def greatestTextLength : Nat := 4294967295

def greatestShortLength : Nat := 255

/-- An integer: four bytes where they hold it, else as many as it needs after their count. -/
def integer (number : Int) : Except EncodeError Bytes :=
  if -2147483648 ≤ number ∧ number ≤ 2147483647 then
    .ok (0x4A :: Bytes.twosComplement 4 number)
  else
    let width := Bytes.twosComplementWidth number
    if width ≤ greatestShortLength then
      .ok (0x8A :: UInt8.ofNat width :: Bytes.twosComplement width number)
    else .error .longInteger

def text (content : String) : Except EncodeError Bytes :=
  let bytes := Utf8.encode content
  if bytes.length ≤ greatestTextLength then
    .ok (0x58 :: Bytes.littleEndian 4 bytes.length ++ bytes)
  else .error .longText

def shortBytes (content : Bytes) : Except EncodeError Bytes :=
  if content.length ≤ greatestShortLength then
    .ok (0x55 :: UInt8.ofNat content.length :: content)
  else .error .longBytes

/-- A container that starts empty and takes its items from a mark on, if there are any. -/
def filled (empty fill : UInt8) (items : Bytes) (isEmpty : Bool) : Bytes :=
  if isEmpty then [empty] else empty :: 0x28 :: items ++ [fill]

/-- A tuple: small ones by their size, others from a mark on. -/
def wrapTuple (size : Nat) (items : Bytes) : Bytes :=
  match size with
  | 0 => [0x29]
  | 1 => items ++ [0x85]
  | 2 => items ++ [0x86]
  | 3 => items ++ [0x87]
  | _ => 0x28 :: items ++ [0x74]

mutual

def instructions : Value → Except EncodeError Bytes
  | .null => .ok [0x4E]
  | .bool true => .ok [0x88]
  | .bool false => .ok [0x89]
  | .text content => text content
  | .bytes content => shortBytes content
  | .signed number => integer number.toInt
  | .unsigned number => integer number.toNat
  | .bigInteger number => integer number
  | .float number => .ok (0x47 :: Bytes.bigEndian 8 number.bits.toNat)
  | .list items => do
      let bytes ← instructionsAll items
      return filled 0x5D 0x65 bytes items.isEmpty
  | .tuple items => do
      let bytes ← instructionsAll items
      return wrapTuple items.length bytes
  | .dict entries => do
      let bytes ← instructionsEntries entries
      return filled 0x7D 0x75 bytes entries.isEmpty
  | .set _ => .error .set

def instructionsAll : List Value → Except EncodeError Bytes
  | [] => .ok []
  | item :: rest => do
      let first ← instructions item
      let others ← instructionsAll rest
      return first ++ others

def instructionsEntries : List (Value × Value) → Except EncodeError Bytes
  | [] => .ok []
  | (key, value) :: rest => do
      let first ← instructions key
      let second ← instructions value
      let others ← instructionsEntries rest
      return first ++ second ++ others

end

end Encoding

def encode (value : Value) : Except EncodeError Bytes := do
  let body ← Encoding.instructions value
  return 0x80 :: 0x02 :: body ++ [0x2E]

end MetricIntake.Pickle
