import MetricIntake.Number.Literal
import MetricIntake.Packet.Policy

/-!
Contract: reading a metric packet, one line of key, value and timestamp.

Owns:
- the fields of a line, which are separated by ASCII blanks;
- the packet that a line holds, and the errors in the order in which they are looked for.

Does not own: what a key may look like, which is the policy's, and what becomes of a packet.
-/

namespace MetricIntake

/-- Why a line is no packet. -/
inductive PacketFault where
  | fieldCount (count : Nat)
  | encoding
  | key (fault : KeyFault)
  | value (field : Bytes)
  | timestamp (field : Bytes)
deriving DecidableEq, Repr

def KeyFault.message : KeyFault → String
  | .emptyNode => "metric key contains an empty node"
  | .invalidByte byte => "metric key contains invalid byte 0x" ++ Bytes.hexPair byte
  | .invalidTag node => "invalid metrics 2.0 node: " ++ node
  | .missingTag tag => "metrics 2.0 key is missing the " ++ tag.name ++ " tag"
  | .duplicateTag tag => "metrics 2.0 key repeats the " ++ tag.name ++ " tag"

def PacketFault.message : PacketFault → String
  | .fieldCount count => "packet must consist of 3 fields, got " ++ Decimal.natText count
  | .encoding => "packet is not valid UTF-8"
  | .key fault => fault.message
  | .value field => "value is not a valid number: " ++ Utf8.lossy field
  | .timestamp field => "timestamp is not a valid unix time: " ++ Utf8.lossy field

/-- A line that is no packet, with the key as far as it was found. -/
structure PacketError where
  key : String
  fault : PacketFault
deriving DecidableEq, Repr

def PacketError.message (error : PacketError) : String :=
  error.fault.message

/-- A metric packet. -/
structure Packet where
  key : String
  value : Binary64
  timestamp : UInt32
deriving DecidableEq, Repr

namespace Packet

/-- Blanks of ASCII: the space, the tabulator, and the ends of lines and pages. The vertical
tabulator is none. -/
def isBlank (byte : UInt8) : Bool :=
  byte == 32 || byte == 9 || byte == 10 || byte == 12 || byte == 13

def fields (line : Bytes) : List Bytes :=
  Fields.words isBlank line

def greatestTimestamp : Nat := 4294967295

def ofFields (policy : KeyPolicy) (keyField valueField timestampField : Bytes) :
    Except PacketError Packet :=
  match Utf8.decode? keyField with
  | none => .error ⟨"", .encoding⟩
  | some key =>
      match policy.check key with
      | .error fault => .error ⟨key, .key fault⟩
      | .ok () =>
          match Literal.binary64? valueField with
          | none => .error ⟨key, .value valueField⟩
          | some value =>
              match Literal.natural? greatestTimestamp timestampField with
              | none => .error ⟨key, .timestamp timestampField⟩
              | some timestamp => .ok ⟨key, value, UInt32.ofNat timestamp⟩

def read (policy : KeyPolicy) (line : Bytes) : Except PacketError Packet :=
  match fields line with
  | [keyField, valueField, timestampField] => ofFields policy keyField valueField timestampField
  | others => .error ⟨"", .fieldCount others.length⟩

end Packet

end MetricIntake
