import StatusTimeline.Audit
import StatusTimeline.Board
import StatusTimeline.Http.Message
import StatusTimeline.Lease.Table
import StatusTimeline.Retention
import StatusTimeline.Simulation.Fault
import StatusTimeline.Store.Table

/-!
This module contains the scripts of simulations: the steps that a script consists of and the answers to
them.
-/

namespace StatusTimeline.Simulation

/--
Which lock provider a step talks to: the one of the engine, or a second one that keeps its locks in memory.
-/
inductive Via where
  | own
  | spare
deriving DecidableEq, Inhabited, Repr

inductive Step where
  | record (request : ChangeRequest)
  | delete (id : Uuid)
  | get (id : Uuid)
  | timeline (monitor : Uuid)
  | current (monitor : Uuid)
  | audit (monitor : Uuid)
  | append (new : NewInterval) (close : Option Uuid)
  | applyDeletion (plan : DeletionPlan)
  | store (c : StoreCall)
  | pointer (monitor : Uuid)
  | setPointer (update : PointerUpdate)
  | sweepBefore (cutoff : Instant)
  | sweepOnce (retention : Retention)
  | spawnSweeper (label : String) (retention : Retention) (intervalMillis : Nat)
  | shutdownSweeper (label : String)
  | dropSweeper (label : String)
  | lock (key label : String) (via : Via) (timeout ttl : Option Span)
  | release (label : String) (via : Via)
  /-- Let go of a token without giving it back. -/
  | dropToken (label : String)
  | activeKeys
  | clock (at_ : Instant)
  | sleep (millis : Nat)
  | elapsed
  | state
  | fault (f : Fault)
  | clearFaults
  | leases
  | deleteLeases
  | updated
  | closePool
  | http (request : Http.Request)
  | concurrent (steps : List Step)
  | delayed (millis : Nat) (step : Step)
  | cancelAfter (millis : Nat) (step : Step)
  | spawn (label : String) (step : Step)
  | finished (label : String)
  | abort (label : String)
  | join (label : String)
  | unknown
  | unreadable
deriving Inhabited

/--
What a simulation shows of its world. Nothing is known of a database whose pool is closed.
-/
structure State where
  intervals : List Interval
  count : Option Nat
  pointers : List (Uuid × Option Uuid)
  activeKeys : Option Nat
  elapsedMillis : Option Nat
  /-- How many users were looked up; none without a directory. -/
  lookups : Option Nat
deriving Inhabited, Repr

inductive Reply where
  | nothing
  | change (c : StatusChange)
  | deletion (o : DeletionOutcome)
  | interval (i : Interval)
  | found (i : Option Interval)
  | intervals (is : List Interval)
  | neighbors (n : Neighbors)
  | audited (r : AuditReport)
  | count (n : Nat)
  | elapsed (millis : Option Nat)
  | key (key : String)
  | pointer (status : Option Uuid)
  | finished (done : Option Bool)
  | state (s : State)
  | leases (rows : List LeaseRow)
  | updated (intervals : List TableRow) (monitors : List MonitorRow)
  | response (r : Http.Response)
deriving Inhabited

inductive Answer where
  | ok (r : Reply)
  | failed (e : Error)
  | panicked
  | unknownLabel
  | unreadable
  | several (answers : List Answer)
  | joined (a : Answer)
  | cancelled
  | traced (a : Answer) (s : State)
deriving Inhabited

def Answer.ofResult (reply : α → Reply) : Except Error α → Answer
  | .ok a => ok (reply a)
  | .error e => failed e

end StatusTimeline.Simulation
