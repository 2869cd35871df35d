import MetricIntake.Pickle.Machine
import MetricIntake.Pickle.Resolution

/-!
Contract: payloads as values and as batches of items.

Owns:
- the errors of decoding, which are the same for every decoder;
- the decoder of this format;
- the demand that a batch is a list.

Does not own: how items of a batch become metrics.
-/

namespace MetricIntake

/-- Why a payload is no batch. -/
inductive DecodeError where
  | endOfInput
  | malformed (detail : String)
  | shape (found : String)
deriving DecidableEq, Repr

namespace DecodeError

def message : DecodeError → String
  | .endOfInput => "ran out of input while decoding payload"
  | .malformed detail => "error reading pickled data: " ++ detail
  | .shape found => "unrecognized type " ++ found ++ " for pickled data"

end DecodeError

namespace Pickle

def Fault.toError : Fault → DecodeError
  | .endOfInput => .endOfInput
  | .evaluation offset cause =>
      .malformed ("eval error at offset " ++ Decimal.natText offset ++ ": " ++ cause.message)
  | .conversion cause => .malformed ("decoding error: " ++ cause.message)

/-- The value that a payload holds, or the fault. Bytes after the last instruction are not
looked at. -/
def read (payload : Bytes) : Except Fault Value :=
  match Machine.runPayload payload with
  | .error fault => .error fault
  | .ok (object, memo) =>
      match Resolution.valueOf memo object with
      | .error cause => .error (.conversion cause)
      | .ok value => .ok value

def decode (payload : Bytes) : Except DecodeError Value :=
  (read payload).mapError Fault.toError

end Pickle

/-- The items of a decoded batch, which must be a list. -/
def batchItems : Value → Except DecodeError (List Value)
  | .list items => .ok items
  | other => .error (.shape other.typeName)

end MetricIntake
