import MetricIntake.CommandLine
import MetricIntake.Server

/-!
Contract: the program that takes up one connection on its standard input.

Owns:
- the effects: reading arguments and standard input, writing lines and messages;
- the texts for help and for arguments that are no settings.

Does not own: any decision about a frame, an item or a line. Whoever accepts connections starts this
program for each of them; the addresses and the number of accept loops are that program's concern.
-/

namespace MetricIntake.Program

def usage : String :=
  String.intercalate "\n"
    ["Receive Graphite pickle batches and emit validated metric lines", "",
      "Options:",
      "  -l, --listen <LISTEN>                  Address to listen on [default: 0.0.0.0:2004]",
      "  -w, --workers <WORKERS>                Number of accept workers",
      "      --validate-order                   Reject metrics whose timestamp does not advance",
      "      --legacy-level <LEGACY_LEVEL>      Level for plain dotted keys [default: medium]",
      "      --m20-level <M20_LEVEL>            Level for metrics 2.0 keys [default: medium]",
      "      --read-timeout-secs <SECS>         Close connections idle for this many seconds",
      "      --max-frame-length <LENGTH>        Largest payload in bytes [default: 524288000]",
      "      --dispatch-capacity <CAPACITY>     Metrics that may wait [default: 65536]",
      "      --bad-metrics-max-age-secs <SECS>  Forget a rejected key after this [default: 3600]",
      "      --bad-metrics-max-keys <KEYS>      Most rejected keys held [default: 10000]",
      "      --metrics-addr <METRICS_ADDR>      Serve readings on this address",
      "  -h, --help                             Print help",
      "  -V, --version                          Print version"]

def refusal : CommandError → String
  | .displayHelp => usage
  | .displayVersion => "0.1.0"
  | .unknownArgument => "error: unexpected argument"
  | .invalidValue => "error: invalid or missing value"
  | .valueValidation => "error: a value cannot be read"
  | .argumentConflict => "error: an argument cannot be used multiple times"
  | .tooManyValues => "error: unexpected value"

/-- Writes the lines that were passed on since a state of the pipeline. -/
def writeLines (output : IO.FS.Stream) (before after : Pipeline) : IO Unit := do
  for metric in after.dispatched.toList.drop before.dispatched.size do
    output.write ⟨(metric.line ++ [10]).toArray⟩
  output.flush

/-- Records the lines that were put into quarantine since a state of the pipeline. -/
def recordRejections (store : Quarantine) (before after : Pipeline) (now : Span) : Quarantine :=
  (after.quarantined.toList.drop before.quarantined.size).foldl
    (fun store rejection => store.record rejection.key rejection.line rejection.cause.message now)
    store

def farewell : ConnectionResult → String
  | .finished stats =>
      "connection closed: frames=" ++ Decimal.natText stats.frames.toNat ++ " items=" ++
        Decimal.natText stats.items.toNat
  | .failed error => "connection closed with error: " ++ error.message
  | .panicked panic => "connection task panicked: " ++ panic.message

partial def takeUp (config : Config) (input output : IO.FS.Stream) (store : Quarantine)
    (pipeline : Pipeline) (connection : Connection) :
    IO (ConnectionResult × Pipeline × Quarantine) := do
  let bytes ← input.read (USize.ofNat config.frameLimits.chunk)
  let reader :=
    if bytes.isEmpty then connection.reader.finish .closed
    else connection.reader.receive bytes.toList
  let (progress, after) :=
    Connection.advance config Decoder.pickle pipeline { connection with reader }
  writeLines output pipeline after
  let store := recordRejections store pipeline after (.ofMilliseconds (← IO.monoMsNow))
  match progress with
  | .inl result => return (result, after, store)
  | .inr connection => takeUp config input output store after connection

/-- Takes up the connection on standard input and reports how it ended. -/
def takeUpInput (settings : Settings) : IO UInt32 := do
  let now : Span := .ofMilliseconds (← IO.monoMsNow)
  let store := Quarantine.create (.ofSeconds (max settings.badMetricsMaxAgeSecs 1))
    settings.badMetricsMaxKeys now
  let (result, pipeline, store) ←
    takeUp settings.config (← IO.getStdin) (← IO.getStdout) store .initial
      (.ofSource ⟨[], [], .pending⟩)
  IO.eprintln (farewell result)
  IO.eprintln ("shutdown complete: " ++ pipeline.counters.inspect ++ ", quarantined keys: " ++
    Decimal.natText store.size)
  return 0

def start (arguments : List String) : IO UInt32 := do
  match Settings.ofArguments arguments with
  | .ok settings => takeUpInput settings
  | .error error =>
      match error with
      | .displayHelp | .displayVersion => do
          IO.println (refusal error)
          return 0
      | _ => do
          IO.eprintln (refusal error)
          return 2

end MetricIntake.Program

def main (arguments : List String) : IO UInt32 :=
  MetricIntake.Program.start arguments
