import MetricIntake.Decoder
import MetricIntake.Frame.Reader
import MetricIntake.Pipeline

/-!
Contract: one connection from its first byte to its end.

Owns:
- the statistics of a connection and the ways in which it ends;
- taking up frame after frame, as far as bytes have arrived.

Does not own: several connections at once, nor what a server counts about them.
-/

namespace MetricIntake

/-- Why a connection ends with an error. -/
inductive ConnectionError where
  | frame (error : Frame.Error)
  | decode (error : DecodeError)
deriving DecidableEq, Repr

def ConnectionError.message : ConnectionError → String
  | .frame error => error.message
  | .decode error => error.message

def ConnectionError.kind : ConnectionError → String
  | .frame error => error.kind
  | .decode (.shape _) => "shape"
  | .decode _ => "decode"

/-- What a connection has taken up. -/
structure ConnectionStats where
  frames : UInt64
  items : UInt64
deriving DecidableEq, Repr

/-- Nothing taken up yet. -/
def ConnectionStats.zero : ConnectionStats := ⟨0, 0⟩

def ConnectionStats.add (stats : ConnectionStats) (batch : List Value) : ConnectionStats :=
  ⟨stats.frames + 1, stats.items + UInt64.ofNat batch.length⟩

/-- How a connection ends. -/
inductive ConnectionResult where
  | finished (stats : ConnectionStats)
  | failed (error : ConnectionError)
  | panicked (payload : PanicPayload)
deriving DecidableEq, Repr

/-- A connection that has not ended. -/
structure Connection where
  reader : Frame.Reader
  stats : ConnectionStats
deriving DecidableEq, Repr

namespace Connection

def ofSource (source : Frame.Source) : Connection := ⟨.ofSource source, .zero⟩

/-- Takes up frames until no more bytes are there, or the connection ends. A payload that ends too
early ends the connection like the end of the stream; any other payload that is no batch ends it
with an error. -/
def advance (config : Config) (decoder : Decoder) (pipeline : Pipeline) (connection : Connection) :
    (ConnectionResult ⊕ Connection) × Pipeline :=
  match _outcome : connection.reader.next config.frameLimits with
  | (none, reader) => (.inr { connection with reader }, pipeline)
  | (some .finished, _) => (.inl (.finished connection.stats), pipeline)
  | (some (.failed error), _) => (.inl (.failed (.frame error)), pipeline)
  | (some (.frame payload), reader) =>
      match decoder.batch payload with
      | .items items =>
          advance config decoder (pipeline.processBatch config items)
            ⟨reader, connection.stats.add items⟩
      | .failed .endOfInput => (.inl (.finished connection.stats), pipeline)
      | .failed error => (.inl (.failed (.decode error)), pipeline)
      | .panicked panic => (.inl (.panicked panic), pipeline)
termination_by connection.reader.weight
decreasing_by exact Frame.Reader.weight_next_lt _ _ _outcome

/-- What a connection comes to whose read has waited for as long as it may. -/
def expired (limit : Span) : ConnectionResult :=
  .failed (.frame (.timeout limit))

/-- Runs a connection on a whole stream. Nothing comes of a stream that stays silent under a reader
that waits without bound. -/
def run (config : Config) (decoder : Decoder) (pipeline : Pipeline) (source : Frame.Source) :
    Option ConnectionResult × Pipeline :=
  match advance config decoder pipeline (.ofSource source) with
  | (.inl result, pipeline) => (some result, pipeline)
  | (.inr _, pipeline) => (none, pipeline)

end Connection

end MetricIntake
