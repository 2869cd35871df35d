import MetricIntake.Connection

/-!
Contract: several connections that share one pipeline while time passes.

Owns:
- the connections by name, each with the instant since which its read has been waiting;
- opening, feeding and closing a connection, and letting time pass;
- the connections that end thereby.

Does not own: how connections are accepted.
-/

namespace MetricIntake

/-- A connection that is open. -/
structure Session where
  connection : Connection
  waitingSince : Span
deriving DecidableEq, Repr

/-- Open connections around a pipeline. -/
structure Sessions where
  now : Span
  /-- The open connections, in the order in which they were opened. -/
  live : List (String × Session)
  pipeline : Pipeline
deriving DecidableEq, Repr

/-- The connections that ended in one step, with their results. -/
abbrev Finished := List (String × ConnectionResult)

namespace Sessions

def initial : Sessions := ⟨⟨0⟩, [], .initial⟩

def find? (sessions : Sessions) (name : String) : Option Session :=
  sessions.live.lookup name

def remove (sessions : Sessions) (name : String) : Sessions :=
  { sessions with live := sessions.live.filter fun entry => entry.1 != name }

/-- The connection of a name replaced, or added at the end. -/
def put (sessions : Sessions) (name : String) (session : Session) : Sessions :=
  { sessions with
    live :=
      if sessions.live.any (·.1 == name) then
        sessions.live.map fun entry => if entry.1 = name then (name, session) else entry
      else sessions.live ++ [(name, session)] }

def isExpired (config : Config) (now : Span) (session : Session) : Bool :=
  match config.readTimeout with
  | some limit => limit.nanoseconds ≤ (now.since session.waitingSince).nanoseconds
  | none => false

/-- Ends the connections whose reads have waited for as long as they may. -/
def expire (config : Config) (sessions : Sessions) : Finished × Sessions :=
  match config.readTimeout with
  | none => ([], sessions)
  | some limit =>
      let (ended, live) := sessions.live.partition fun entry =>
        isExpired config sessions.now entry.2
      (ended.map fun entry => (entry.1, Connection.expired limit), { sessions with live })

/-- Takes up what a connection can, after which its read has been waiting since `waitingSince`. -/
def advance (config : Config) (decoder : Decoder) (sessions : Sessions) (name : String)
    (connection : Connection) (waitingSince : Span) : Finished × Sessions :=
  let (progress, pipeline) := connection.advance config decoder sessions.pipeline
  let sessions := { sessions with pipeline }
  match progress with
  | .inl result => ([(name, result)], sessions.remove name)
  | .inr connection => expire config (sessions.put name ⟨connection, waitingSince⟩)

def connect (config : Config) (decoder : Decoder) (sessions : Sessions) (name : String) :
    Finished × Sessions :=
  advance config decoder sessions name (.ofSource ⟨[], [], .pending⟩) sessions.now

/-- Bytes arrive on a connection. Any byte ends the wait of the read, and the next one begins to
wait at this instant. Says whether the connection was still open. -/
def send (config : Config) (decoder : Decoder) (sessions : Sessions) (name : String)
    (bytes : Bytes) : Bool × Finished × Sessions :=
  match sessions.find? name with
  | none => (false, [], sessions)
  | some session =>
      let reader := session.connection.reader.receive bytes
      let waitingSince := if bytes.isEmpty then session.waitingSince else sessions.now
      (true, advance config decoder sessions name { session.connection with reader } waitingSince)

def close (config : Config) (decoder : Decoder) (sessions : Sessions) (name : String) :
    Finished × Sessions :=
  match sessions.find? name with
  | none => ([], sessions)
  | some session =>
      let reader := session.connection.reader.finish .closed
      advance config decoder sessions name { session.connection with reader } session.waitingSince

def elapse (config : Config) (sessions : Sessions) (span : Span) : Finished × Sessions :=
  expire config { sessions with now := ⟨sessions.now.nanoseconds + span.nanoseconds⟩ }

end Sessions

end MetricIntake
