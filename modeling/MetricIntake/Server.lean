import MetricIntake.Backoff
import MetricIntake.Connection

/-!
Contract: a server that takes up connections and counts how they end.

Owns:
- the settings of a server and how they are chosen;
- the task of one connection, whose end disturbs no other;
- binding an address, serving a sequence of connections, and the faults of the network.

Does not own: threads; connections are served one after the other, each to its end.
-/

namespace MetricIntake

/-- A server before it is bound to an address. -/
structure Server where
  workers : Option Nat
  backoff : Backoff
  config : Config
deriving DecidableEq, Repr

namespace Server

def create (config : Config) : Server := ⟨none, .default, config⟩

/-- Another number of accept loops, at least one. -/
def withWorkers (server : Server) (count : Nat) : Server :=
  { server with workers := some (max count 1) }

/-- Other pauses, in their normal form. -/
def withBackoff (server : Server) (backoff : Backoff) : Server :=
  { server with backoff := backoff.normalized }

def countEnd (pipeline : Pipeline) : ConnectionResult → Pipeline
  | .finished _ => pipeline
  | .failed error =>
      { pipeline with
        telemetry := pipeline.telemetry.increment (.connectionErrors error.kind) }
  | .panicked _ =>
      { pipeline with telemetry := pipeline.telemetry.increment .connectionPanics }

/-- Serves one connection to its end. It counts as active until it ends. -/
def serveConnection (config : Config) (decoder : Decoder) (pipeline : Pipeline)
    (source : Frame.Source) : Option ConnectionResult × Pipeline :=
  let started :=
    { pipeline with telemetry := pipeline.telemetry.increment .activeConnections }
  match Connection.run config decoder started source with
  | (none, pipeline) => (none, pipeline)
  | (some result, pipeline) =>
      let idle :=
        { pipeline with telemetry := pipeline.telemetry.decrement .activeConnections }
      (some result, countEnd idle result)

def serveAll (config : Config) (decoder : Decoder) (pipeline : Pipeline)
    (sources : List Frame.Source) : Pipeline :=
  sources.foldl (fun state source => (serveConnection config decoder state source).2) pipeline

/-- What the network of a host may refuse. -/
inductive NetworkFault where
  | addressInUse
  | unreachable
deriving DecidableEq, Repr

def NetworkFault.message : NetworkFault → String
  | .addressInUse => "Address already in use (os error 98)"
  | .unreachable => "Network is unreachable (os error 101)"

def bindMessage (fault : NetworkFault) : String :=
  "bind error: " ++ fault.message

/-- What a host's network does for a server and its clients. -/
structure Host where
  bindFault : Option NetworkFault
  connectFault : Option NetworkFault
deriving DecidableEq, Repr

/-- How a run of a server ends. -/
inductive Run where
  | notBound (fault : NetworkFault)
  | notConnected (fault : NetworkFault)
  | stopped (pipeline : Pipeline)
deriving DecidableEq, Repr

/-- Binds a server on a host, lets clients connect one after the other, and stops it. -/
def run (host : Host) (decoder : Decoder) (server : Server) (clients : List Frame.Source) : Run :=
  match host.bindFault with
  | some fault => .notBound fault
  | none =>
      match clients, host.connectFault with
      | _ :: _, some fault => .notConnected fault
      | _, _ => .stopped (serveAll server.config decoder .initial clients)

end Server

def Span.inspectOption : Option Span → String
  | none => "None"
  | some span => "Some(" ++ span.text ++ ")"

def Config.inspect (config : Config) : String :=
  "IngestConfig \x7b max_frame_length: " ++ Decimal.natText config.maxFrameLength ++
    ", chunk_size: " ++ Decimal.natText config.chunkSize ++
    ", read_timeout: " ++ Span.inspectOption config.readTimeout ++
    ", validate_order: " ++ (if config.validateOrder then "true" else "false") ++
    ", legacy_level: " ++ config.policy.legacy.title ++
    ", m20_level: " ++ config.policy.tagged.title ++ " \x7d"

def Counters.inspect (counters : Counters) : String :=
  "IngestCounters \x7b items: " ++ Decimal.natText counters.items.toNat ++
    ", invalid: " ++ Decimal.natText counters.invalid.toNat ++
    ", out_of_order: " ++ Decimal.natText counters.outOfOrder.toNat ++
    ", dispatched: " ++ Decimal.natText counters.dispatched.toNat ++
    ", frames: " ++ Decimal.natText counters.frames.toNat ++ " \x7d"

/-- The diagnostic text of a pipeline: its settings and counters. -/
def Pipeline.inspect (config : Config) (pipeline : Pipeline) : String :=
  "Pipeline \x7b config: " ++ config.inspect ++ ", counters: " ++ pipeline.counters.inspect ++
    ", .. \x7d"

end MetricIntake
