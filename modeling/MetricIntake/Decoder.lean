import MetricIntake.Pickle.Decoding

/-!
Contract: decoders of payloads, as far as a connection depends on them.

Owns:
- the outcomes of decoding: a value, an error, or a panic;
- the words for a panic;
- the decoder of this library's format.

Does not own: what follows from an outcome.
-/

namespace MetricIntake

/-- What a panic carries. -/
inductive PanicPayload where
  | text (message : String)
  | other
deriving DecidableEq, Repr

def PanicPayload.message : PanicPayload → String
  | .text message => message
  | .other => "Any \x7b .. \x7d"

/-- What decoding a payload comes to. -/
inductive Decoding where
  | value (decoded : Value)
  | failed (error : DecodeError)
  | panicked (payload : PanicPayload)
deriving Repr

/-- A decoder looks at nothing but the payload. -/
abbrev Decoder := Bytes → Decoding

namespace Decoder

/-- An outcome of decoding without panic. -/
def ofExcept : Except DecodeError Value → Decoding
  | .ok value => .value value
  | .error error => .failed error

def pickle : Decoder := fun payload => ofExcept (Pickle.decode payload)

end Decoder

/-- What the items of a payload come to. -/
inductive BatchDecoding where
  | items (batch : List Value)
  | failed (error : DecodeError)
  | panicked (payload : PanicPayload)
deriving Repr

/-- The items of a payload: its value must be a list. -/
def Decoder.batch (decoder : Decoder) (payload : Bytes) : BatchDecoding :=
  match decoder payload with
  | .value value =>
      match batchItems value with
      | .ok items => .items items
      | .error error => .failed error
  | .failed error => .failed error
  | .panicked panic => .panicked panic

end MetricIntake
