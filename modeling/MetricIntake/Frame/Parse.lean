import MetricIntake.Frame.Reader

/-!
Contract: the next frame of a stream whose bytes are all known, found at once.

Owns:
- the result of one call on the bytes that are left, and the bytes left after it;
- the results of a number of calls.

Does not own: reading a stream in pieces. A reader has phases, a chunk size and a network that cuts
the stream as it likes; none of them is mentioned here, so agreement with this module says that none
of them can be noticed.
-/

namespace MetricIntake.Frame

/-- The result where bytes are missing: it depends on what follows the bytes that are there. Nothing
comes of a stream that may go on, or of one that stays silent under a reader that waits without
bound. -/
def shortage (readTimeout : Option Span) (ending : Ending) (atClose : Result) : Option Result :=
  match ending with
  | .closed => some atClose
  | .failed message => some (.failed (.transport message))
  | .silent => readTimeout.map fun limit => .failed (.timeout limit)
  | .pending => none

/-- The payload of `length` bytes whose marker was found. An incomplete one is dropped. -/
def parseBody (short : Result → Option Result) (length : Nat) (bytes : Bytes) :
    Option Result × Bytes :=
  if bytes.length < length then (short (.failed (.midFrame bytes.length length)), [])
  else (some (.frame (bytes.take length)), bytes.drop length)

/-- The next frame of a payload that the header said to be `length` bytes long. All but an
incomplete payload is left where it is when no frame is found. -/
def parsePayload (short : Result → Option Result) (length : Nat) (bytes : Bytes) :
    Option Result × Bytes :=
  let wanted := min markerSize length
  if bytes.length < wanted then (short (.failed (.midFrame bytes.length length)), bytes)
  else if length < markerSize ∨ hasMarker (bytes.take wanted) = false then
    (some (.failed (.invalidMarker (bytes.take wanted))), bytes)
  else parseBody short length bytes

/-- The next frame of the bytes that are left, and the bytes left after it. A complete header is
always taken off, an incomplete one never. Where bytes are missing, `short` says what becomes of
the result that a close of the stream would have had. -/
def parse (maxLength : Nat) (short : Result → Option Result) (bytes : Bytes) :
    Option Result × Bytes :=
  if bytes.length < headerSize then
    (short (if bytes.isEmpty then .finished else .failed (.midHeader bytes.length)), bytes)
  else
    let length := lengthOfHeader (bytes.take headerSize)
    let left := bytes.drop headerSize
    if maxLength < length then (some (.failed (.oversized length maxLength)), left)
    else parsePayload short length left

def parseCalls (maxLength : Nat) (short : Result → Option Result) :
    (calls : Nat) → Bytes → List (Option Result)
  | 0, _ => []
  | calls + 1, bytes =>
      let (result, left) := parse maxLength short bytes
      result :: parseCalls maxLength short calls left

def Reader.calls (limits : Limits) : (calls : Nat) → Reader → List (Option Result)
  | 0, _ => []
  | calls + 1, reader =>
      let (result, after) := reader.next limits
      result :: Reader.calls limits calls after

end MetricIntake.Frame
