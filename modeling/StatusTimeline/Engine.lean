import StatusTimeline.Audit
import StatusTimeline.Program

/-!
This module contains the engine, which keeps every monitor's intervals contiguous with exactly one of them
open: recording a status change opens an interval and closes the most recently created one, deleting an
interval joins its neighbours. All that is written for a monitor is written under the monitor's lock.
-/

namespace StatusTimeline

inductive Compound where
  /-- By a call of its own, which changes nothing when it fails. -/
  | whole
  | stepwise
deriving DecidableEq, Inhabited, Repr

structure Engine where
  compound : Compound := .whole
  directory : Bool := false
deriving DecidableEq, Inhabited, Repr

namespace Engine

def lockKey (monitor : Uuid) : String := monitor.text

/--
Insert an interval and end `close` at its creation. When that fails the new interval is removed again.
-/
def appendStepwise (new : NewInterval) (close : Option Uuid) : Operation Interval := do
  let created ← (StoreCall.insert new).perform
  let some prior := close | return created
  tryCatch
    (StoreCall.updateEndsAt prior (some created.createdAt)).perform
    (fun e => do
      tryCatch (StoreCall.delete created.id).perform fun _ => return ()
      throw e)
  return created

def applyDeletionStepwise (plan : DeletionPlan) : Operation Unit := do
  if let some repair := plan.repair then
    (StoreCall.updateEndsAt repair.intervalId repair.endsAt).perform
  (StoreCall.delete plan.target).perform

/--
Insert an interval and end `close` at its creation.
-/
def append (e : Engine) (new : NewInterval) (close : Option Uuid) : Operation Interval :=
  match e.compound with
  | .whole => (StoreCall.append new close).perform
  | .stepwise => appendStepwise new close

def applyDeletion (e : Engine) (plan : DeletionPlan) : Operation Unit :=
  match e.compound with
  | .whole => (StoreCall.applyDeletion plan).perform
  | .stepwise => applyDeletionStepwise plan

/--
Give back the lock after an operation, whatever its result. An error of the operation goes before an error of
the release.
-/
def finish (token : Token) (body : Operation α) : Operation α :=
  ExceptT.mk do
    let outcome ← body.run
    let released ← (Call.release token).perform.run
    return match outcome, released with
      | .ok a, .ok _ => .ok a
      | .ok _, .error e => .error e
      | .error e, _ => .error e

def locked (monitor : Uuid) (body : Operation α) : Operation α := do
  let token ← (Call.lock (lockKey monitor)).perform
  finish token body

/--
The root cause that the initiating user gives. A lookup that fails in any way gives none.
-/
def annotate (e : Engine) (request : ChangeRequest) : Operation (Option String) := do
  let some user := request.initiatingUser | return none
  if !e.directory then return none
  let answer ← tryCatch (Call.resolve user).perform fun _ => return .unknown
  match answer with
  | .found actor => return some actor.rootCause
  | .unknown => return none
  | .timedOut => return none

def recordLocked (e : Engine) (monitor status : Uuid) (request : ChangeRequest) :
    Operation StatusChange := do
  let rootCause ← match request.rootCause with
    | some given => pure (some given)
    | none => e.annotate request
  let prior ← (StoreCall.findLatest monitor).perform
  let closedPrior := prior.map (·.id)
  let new : NewInterval := {
    monitorId := monitor
    statusId := status
    startsAt := request.startsAt
    rootCause
    createdBy := request.createdBy }
  let interval ← e.append new closedPrior
  let pointer : PointerUpdate := { monitorId := monitor, statusId := interval.statusId }
  (Call.setPointer pointer).perform
  return { interval, closedPrior, pointer }

/--
Open an interval for a monitor and close the one that was created last, at the creation of the new one.
-/
def record (e : Engine) (request : ChangeRequest) : Operation StatusChange := do
  let some monitor := request.monitorId | throw (.validation .missingMonitor)
  let some status := request.statusId | throw (.validation .missingStatus)
  locked monitor (e.recordLocked monitor status request)

def get (id : Uuid) : Operation Interval := do
  let some interval ← (StoreCall.findById id).perform | throw (.noInterval id)
  return interval

/--
Delete an interval under its monitor's lock. It is looked up again: it may have gone since. The last
interval of a monitor stays.
-/
def deleteLocked (e : Engine) (id : Uuid) : Operation DeletionOutcome := do
  let target ← get id
  let monitor := target.monitorId
  let count ← (StoreCall.count monitor).perform
  if count ≤ 1 then throw (.validation .onlyInterval)
  let neighbors ← (StoreCall.findNeighbors monitor target.startsAt).perform
  let plan := DeletionPlan.restitch target neighbors
  e.applyDeletion plan
  let latest ← (StoreCall.findLatest monitor).perform
  let pointer ← match latest with
    | some latest => do
      let update : PointerUpdate := { monitorId := monitor, statusId := latest.statusId }
      (Call.setPointer update).perform
      pure (some update)
    | none => pure none
  return { deleted := target, repair := plan.repair, pointer }

def delete (e : Engine) (id : Uuid) : Operation DeletionOutcome := do
  let target ← get id
  locked target.monitorId (e.deleteLocked id)

def timeline (monitor : Uuid) : Operation (List Interval) := (StoreCall.list monitor).perform

/--
The most recently created interval of a monitor, which carries its current status.
-/
def current (monitor : Uuid) : Operation (Option Interval) := (StoreCall.findLatest monitor).perform

def audit (monitor : Uuid) : Operation AuditReport := do
  return StatusTimeline.audit (← timeline monitor)

/--
Remove the intervals of all monitors that ended before a cutoff, and tell how many. No lock is taken.
-/
def sweepBefore (cutoff : Instant) : Operation Nat := (StoreCall.purge cutoff).perform

end Engine

end StatusTimeline
