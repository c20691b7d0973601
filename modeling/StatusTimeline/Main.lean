import StatusTimeline.Json.Printer
import StatusTimeline.Json.Reader
import StatusTimeline.Json.Record
import StatusTimeline.Simulation.Setup

/-!
This module contains the command line of the service. It takes its settings from environment variables,
then reads requests from standard input, one JSON object a line, and prints the responses, one a line. A
request has a `method`, a `target`, `headers` as pairs of texts, a `body`, and `at`, the instant it arrives.
Tables in memory stand in for a database.
-/

namespace StatusTimeline.Command

open Simulation

def variableNames : List String :=
  ["STATUSLINE_BACKEND", "STATUSLINE_LOCK_TIMEOUT_MS", "STATUSLINE_LEASE_TTL_SECS",
    "STATUSLINE_ANNOTATION_TIMEOUT_MS", "STATUSLINE_RETENTION_DAYS",
    "STATUSLINE_SWEEP_INTERVAL_SECS", "STATUSLINE_HTTP_BIND", "STATUSLINE_DATABASE_URL",
    "STATUSLINE_ENV", "STATUSLINE_NODE_NAME", "STATUSLINE_LOG_LEVEL", "TIMELINE_DATABASE_URL",
    "TIMELINE_ENV", "TIMELINE_NODE_NAME", "TIMELINE_LOG_LEVEL", "DATABASE_URL", "RUST_LOG"]

def environment : IO Environment := do
  let values ← variableNames.filterMapM fun name => do
    return (← IO.getEnv name).map fun value => (name, value)
  return .ofList values

def textOf (v : Json) (name : String) : String :=
  match v.get? name with
  | some (.str s) => s
  | _ => ""

def requestOf (v : Json) : Http.Request where
  method := textOf v "method"
  target := textOf v "target"
  headers := match v.get? "headers" with
    | some (.arr pairs) => pairs.filterMap fun
      | .arr [.str name, .str value] => some (name, value.toUTF8.toList)
      | _ => none
    | _ => []
  body := (textOf v "body").toUTF8

/--
Let the time pass until a request arrives, when it tells the instant. The first one starts the clock.
-/
def arrive (s : Session) (last : Option Instant) (v : Json) : Session × Option Instant :=
  match (v.get? "at").map Json.asInstant with
  | some (.ok t) =>
    let (_, s) := s.play (.clock t)
    match last with
    | none => (s, some t)
    | some last =>
      let passed := (t.toNanos - last.toNanos) / 1000000
      let (_, s) := s.play (.sleep passed.toNat)
      (s, some t)
  | _ => (s, last)

def lineOf (r : Http.Response) : String :=
  Json.text (.obj [("status", .ofNat r.status), ("body", r.body.getD .null)])

partial def serve (input output : IO.FS.Stream) (s : Session) (last : Option Instant) : IO Unit := do
  let line ← input.getLine
  if line.isEmpty then return
  match Json.ofText? line with
  | none => serve input output s last
  | some v =>
    let (s, last) := arrive s last v
    let (responses, s) := s.respond [requestOf v]
    for response in responses do
      output.putStrLn (lineOf response)
    output.flush
    serve input output s last

end StatusTimeline.Command

open StatusTimeline in
/--
Start the service and answer requests; fail when it does not start.
-/
def main : IO UInt32 := do
  let env ← Command.environment
  match Service.start env with
  | .error e =>
    IO.eprintln e.message
    return 1
  | .ok (service, _) =>
    let config := service.config
    let session := Simulation.Session.ofService service Simulation.defaultClock []
    let (_, session) :=
      session.play (.spawnSweeper "retention" config.retention config.sweepInterval.millis)
    Command.serve (← IO.getStdin) (← IO.getStdout) session none
    return 0
