/-!
Contract: byte strings and the fixed-width integers stored in them.

Owns:
- the byte string type of every wire format in this library;
- little-endian and big-endian natural numbers of a given width;
- little-endian two's complement integers, and the least width that holds one;
- the two-digit hexadecimal text of a byte and of a byte list.

Does not own: any framing or opcode; those say which width stands where.
-/

namespace MetricIntake

/-- A byte string, first byte first. -/
abbrev Bytes := List UInt8

namespace Bytes

/-- The natural number whose base 256 digits are the bytes, least significant first. -/
def ofLittleEndian : Bytes → Nat
  | [] => 0
  | byte :: rest => byte.toNat + 256 * ofLittleEndian rest

/-- The lowest `width` base 256 digits of a number, least significant first. -/
def littleEndian : (width number : Nat) → Bytes
  | 0, _ => []
  | width + 1, number => UInt8.ofNat number :: littleEndian width (number / 256)

/-- The natural number whose base 256 digits are the bytes, most significant first. -/
def ofBigEndian (bytes : Bytes) : Nat :=
  ofLittleEndian bytes.reverse

/-- The lowest `width` base 256 digits of a number, most significant first. -/
def bigEndian (width number : Nat) : Bytes :=
  (littleEndian width number).reverse

theorem littleEndian_length (width number : Nat) : (littleEndian width number).length = width := by
  induction width generalizing number with
  | zero => rfl
  | succ width inductionHypothesis => simp [littleEndian, inductionHypothesis]

theorem bigEndian_length (width number : Nat) : (bigEndian width number).length = width := by
  simp [bigEndian, littleEndian_length]

def capacity (width : Nat) : Nat :=
  Nat.pow 256 width

/-- The integer of a little-endian two's complement byte string; the empty string is zero. -/
def ofTwosComplement (bytes : Bytes) : Int :=
  let magnitude := ofLittleEndian bytes
  if 2 * magnitude < capacity bytes.length then magnitude
  else (magnitude : Int) - capacity bytes.length

/-- The `width` byte little-endian two's complement form of an integer that fits. -/
def twosComplement (width : Nat) (number : Int) : Bytes :=
  littleEndian width (number % capacity width).toNat

/-- The number of binary digits of a natural number; zero has none. -/
def bitLength (number : Nat) : Nat :=
  if number = 0 then 0 else number.log2 + 1

/-- The least number of bytes whose two's complement holds the integer, one for zero: the
magnitude needs a sign bit beside it. -/
def twosComplementWidth : Int → Nat
  | .ofNat magnitude => bitLength magnitude / 8 + 1
  | .negSucc magnitude => bitLength magnitude / 8 + 1

def hexDigit (digit : Nat) : Char :=
  if digit < 10 then Char.ofNat ('0'.toNat + digit) else Char.ofNat ('a'.toNat + (digit - 10))

def hexPair (byte : UInt8) : String :=
  String.ofList [hexDigit (byte.toNat / 16), hexDigit (byte.toNat % 16)]

/-- A byte list in brackets, each byte as two hexadecimal digits: `[80, 02]`. -/
def hexList (bytes : Bytes) : String :=
  "[" ++ String.intercalate ", " (bytes.map hexPair) ++ "]"

/-- Splits off exactly `count` bytes, or nothing when there are fewer. -/
def split? (count : Nat) (bytes : Bytes) : Option (Bytes × Bytes) :=
  let (front, rest) := bytes.splitAt count
  if front.length = count then some (front, rest) else none

end Bytes

end MetricIntake
