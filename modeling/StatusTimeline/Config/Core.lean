import StatusTimeline.Config.Environment

/-!
This module contains the settings that every service of the platform shares, and which variables they come
from: those with the service's own prefix when they name a database, else those of the platform.
-/

namespace StatusTimeline

inductive Stage where
  | development
  | staging
  | production
deriving DecidableEq, Inhabited, Repr

namespace Stage

/--
Read a stage in any case of its letters. What is unknown is development.
-/
def ofText (s : String) : Stage :=
  match asciiLower s with
  | "production" => production
  | "prod" => production
  | "staging" => staging
  | "stage" => staging
  | _ => development

def name : Stage → String
  | development => "Development"
  | staging => "Staging"
  | production => "Production"

end Stage

structure CoreConfig where
  databaseUrl : Option String
  stage : Stage
  nodeName : String
  logLevel : Option String
deriving DecidableEq, Inhabited, Repr

namespace CoreConfig

def ofPrefixed (lead : String) (env : Environment) : CoreConfig where
  databaseUrl := env.lookup (lead ++ "DATABASE_URL")
  stage := ((env.lookup (lead ++ "ENV")).map Stage.ofText).getD .development
  nodeName := (env.lookup (lead ++ "NODE_NAME")).getD "statusline-node"
  logLevel := (env.lookup (lead ++ "LOG_LEVEL")).filter fun level => trimmed level ≠ ""

/--
Read the settings of the platform. The database may also be named by `DATABASE_URL` alone.
-/
def ofPlatform (env : Environment) : CoreConfig :=
  let config := ofPrefixed "STATUSLINE_" env
  { config with databaseUrl := config.databaseUrl <|> env.lookup "DATABASE_URL" }

/--
Read the settings of the timeline service: its own when they name a database, else the platform's. Only for
those a file of variables is loaded first, and `loaded` is the environment after that.
-/
def ofServiceLoaded (env loaded : Environment) : CoreConfig :=
  let own := ofPrefixed "TIMELINE_" env
  if own.databaseUrl.isSome then own else ofPlatform loaded

/--
Read the settings of the timeline service where there is no file to load.
-/
def ofService (env : Environment) : CoreConfig := ofServiceLoaded env env

def requireDatabaseUrl (c : CoreConfig) : Except ConfigError String :=
  match c.databaseUrl with
  | some url => .ok url
  | none => .error (.missing "DATABASE_URL")

def isProduction (c : CoreConfig) : Bool := c.stage = .production

end CoreConfig

end StatusTimeline
