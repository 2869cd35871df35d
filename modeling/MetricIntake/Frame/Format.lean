import MetricIntake.Bytes

/-!
Contract: the format of frames on a connection.

Owns:
- the header, the length of the payload in four bytes, most significant first;
- the marker at the start of every payload;
- the frame of a payload.

Does not own: reading frames from a connection.
-/

namespace MetricIntake.Frame

def headerSize : Nat := 4

def markerSize : Nat := 3

def greatestLength : Nat := 4294967295

def lengthOfHeader (header : Bytes) : Nat :=
  Bytes.ofBigEndian header

/-- Whether a payload starts as a batch does: the opcode of the protocol, any version, and the
opcode of an empty list. -/
def hasMarker : Bytes → Bool
  | 0x80 :: _ :: 0x5D :: _ => true
  | _ => false

/-- The frame of a payload, whose length must fit in the header. -/
def encode (payload : Bytes) : Bytes :=
  Bytes.bigEndian headerSize payload.length ++ payload

/-- The frames of some payloads, one after the other. -/
def encodeAll (payloads : List Bytes) : Bytes :=
  payloads.flatMap encode

theorem encode_length (payload : Bytes) :
    (encode payload).length = headerSize + payload.length := by
  simp [encode, Bytes.bigEndian_length]

end MetricIntake.Frame
