import MetricIntake.Frame.Format
import MetricIntake.Span

/-!
Contract: why no further frame can be read from a connection.

Owns: the errors, their messages and the class under which an operator counts each.

Does not own: when an error arises.
-/

namespace MetricIntake.Frame

/-- Why a frame cannot be read. -/
inductive Error where
  | oversized (size limit : Nat)
  | invalidMarker (found : Bytes)
  | midHeader (received : Nat)
  | midFrame (received expected : Nat)
  | timeout (limit : Span)
  | transport (message : String)
deriving DecidableEq, Repr

def Error.message : Error → String
  | .oversized size limit =>
      "payload length of " ++ Decimal.natText size ++ " is more than the supported maximum " ++
        Decimal.natText limit
  | .invalidMarker found => "invalid payload prefix: " ++ Bytes.hexList found
  | .midHeader received =>
      "premature EOF during header: " ++ Decimal.natText received ++ " of " ++
        Decimal.natText headerSize ++ " header bytes"
  | .midFrame received expected =>
      "premature EOF: " ++ Decimal.natText received ++ " bytes of " ++ Decimal.natText expected ++
        " byte frame received"
  | .timeout limit => "no data received for " ++ limit.text
  | .transport message => "couldn't read from connection: " ++ message

def Error.kind : Error → String
  | .oversized _ _ => "oversized"
  | .invalidMarker _ => "prefix"
  | .midHeader _ => "eof"
  | .midFrame _ _ => "eof"
  | .timeout _ => "timeout"
  | .transport _ => "io"

end MetricIntake.Frame
