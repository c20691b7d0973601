import StatusTimeline.Config.Core
import StatusTimeline.Config.Logging
import StatusTimeline.Config.Timeline
import StatusTimeline.Engine
import StatusTimeline.Http.BindAddress

/-!
This module contains the start of the service: the settings are read, logging starts, the database is found
where there is one, and the service listens.
-/

namespace StatusTimeline

inductive StartFailure where
  | logging
  | config (e : ConfigError)
  | startup (e : Error)
  | serve (why : Http.BindFailure)
deriving DecidableEq, Inhabited, Repr

def StartFailure.message : StartFailure → String
  | logging => "logging error: the filter is cut within a character"
  | config e => "configuration error: " ++ e.message
  | startup e => "startup error: " ++ e.message
  | serve why => "http server error: " ++ why.message

structure Service where
  core : CoreConfig
  config : TimelineConfig
deriving DecidableEq, Inhabited, Repr

namespace Service

def connect (core : CoreConfig) (config : TimelineConfig) : Except Error Service := do
  if config.backend = .postgres then
    match core.requireDatabaseUrl with
    | .error e => throw e.toError
    | .ok address =>
      if let some flaw := DatabaseAddress.flaw? address then throw (.database (.address flaw))
  return { core, config }

/--
The engine of the service. It always has a directory, if only an empty one.
-/
def engine : Engine where
  compound := .whole
  directory := true

/--
Start logging. The service does without when the filter is refused.
-/
def startLogging (core : CoreConfig) (env : Environment) : Except StartFailure Unit :=
  match Logging.start false (env.lookup "RUST_LOG") core.logLevel with
  | .error .broken => .error .logging
  | _ => .ok ()

/--
Start the service: the settings shared by all services, logging, its own settings, the database, the address
to listen on, in this order.
-/
def start (env : Environment) : Except StartFailure (Service × Http.BindAddress) := do
  let core := CoreConfig.ofService env
  startLogging core env
  let config ← (TimelineConfig.ofEnvironment env).mapError .config
  let service ← (connect core config).mapError .startup
  let address ← (Http.BindAddress.listen config.bindAddress).mapError .serve
  return (service, address)

end Service

end StatusTimeline
