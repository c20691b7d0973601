import StatusTimeline.Database.Address
import StatusTimeline.Uuid

/-!
This module contains the errors of the timeline service, by their causes, and their texts.
-/

namespace StatusTimeline

inductive Refusal where
  | missingMonitor
  | missingStatus
  | onlyInterval
  | other (detail : String)
deriving DecidableEq, Inhabited, Repr

inductive Missing where
  | interval (id : Uuid)
  | monitor (id : Uuid)
  | other (detail : String)
deriving DecidableEq, Inhabited, Repr

inductive LockFailure where
  | foreignToken (key : String)
  /-- The lease ran out, or another took it over, before it was given back. -/
  | leaseLost (key : String)
  | other (detail : String)
deriving DecidableEq, Inhabited, Repr

inductive DatabaseFailure where
  | rowNotFound
  | poolTimedOut
  | poolClosed
  | workerCrashed
  | unexpectedData (detail : String)
  | missingMigration (version : Int)
  | nulCharacter
  | missingTable (name : String)
  | address (why : AddressFlaw)
deriving DecidableEq, Inhabited, Repr

/--
How long a caller waited. A wait on a clock that only simulates time has no length of its own.
-/
inductive Waited where
  | millis (n : Nat)
  | simulated
deriving DecidableEq, Inhabited, Repr

inductive Error where
  | io (detail : String)
  | serialization (detail : String)
  | validation (why : Refusal)
  | notFound (what : Missing)
  | lockTimeout (key : String) (waited : Waited)
  | lock (why : LockFailure)
  | database (why : DatabaseFailure)
  | collaborator (detail : String)
  | config (detail : String)
  | general (detail : String)
deriving DecidableEq, Inhabited, Repr

inductive ConfigError where
  | missing (key : String)
  | invalid (key value : String)
  | inconsistent (detail : String)
deriving DecidableEq, Inhabited, Repr

def Refusal.message : Refusal → String
  | missingMonitor => "monitorId is null"
  | missingStatus => "monitorStatusId is null"
  | onlyInterval =>
    "Cannot delete the only status timeline. Monitor should have at least one status timeline."
  | other detail => detail

def Missing.message : Missing → String
  | interval id => "status timeline " ++ id.text
  | monitor id => "monitor " ++ id.text
  | other detail => detail

/--
The text of a lock failure. A lease's own identifier is drawn at random and is not repeated.
-/
def LockFailure.message : LockFailure → String
  | foreignToken key => "token for " ++ key ++ " was not issued by the in-memory provider"
  | leaseLost key => "lease <lease> on " ++ key ++ " expired before release"
  | other detail => detail

def DatabaseFailure.message : DatabaseFailure → String
  | rowNotFound => "no rows returned by a query that expected to return at least one row"
  | poolTimedOut => "pool timed out while waiting for an open connection"
  | poolClosed => "attempted to acquire a connection on a closed pool"
  | workerCrashed => "attempted to communicate with a crashed background worker"
  | unexpectedData detail => "encountered unexpected or invalid data: " ++ detail
  | missingMigration version =>
    "migration " ++ toString version ++
      " was previously applied but is missing in the resolved migrations"
  | nulCharacter =>
    "error returned from database: invalid byte sequence for encoding \"UTF8\": 0x00"
  | missingTable name =>
    "error returned from database: relation \"" ++ name ++ "\" does not exist"
  | address why => "error with configuration: " ++ why.message

def Waited.message : Waited → String
  | millis n => n.repr
  | simulated => "<waited>"

namespace Error

def message : Error → String
  | io detail => "I/O error: " ++ detail
  | serialization detail => "serialization error: " ++ detail
  | validation why => why.message
  | notFound what => "not found: " ++ what.message
  | lockTimeout key waited =>
    "timed out after " ++ waited.message ++ "ms waiting for lock " ++ key
  | lock why => "lock error: " ++ why.message
  | database why => "database error: " ++ why.message
  | collaborator detail => "collaborator failure: " ++ detail
  | config detail => "configuration error: " ++ detail
  | general detail => detail

def noInterval (id : Uuid) : Error := .notFound (.interval id)

def isRetryable : Error → Bool
  | lockTimeout _ _ => true
  | _ => false

def isValidation : Error → Bool
  | validation _ => true
  | _ => false

end Error

namespace ConfigError

def message : ConfigError → String
  | missing key => "missing required environment variable: " ++ key
  | invalid key value => "invalid value for environment variable " ++ key ++ ": " ++ value
  | inconsistent detail => "internal error: " ++ detail

def toError (e : ConfigError) : Error := .config e.message

end ConfigError

end StatusTimeline
