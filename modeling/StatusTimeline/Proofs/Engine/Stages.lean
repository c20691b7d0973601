import StatusTimeline.Engine

/-!
This module contains the stages of the two writing operations of an engine: what they do after a root cause was
found, after the target of a deletion was found, and after a deletion was applied.
-/

namespace StatusTimeline

namespace Engine

/--
The root cause of a new interval: the one that is given, else the one that the initiating user gives.
-/
def rootCause (e : Engine) (r : ChangeRequest) : Operation (Option String) :=
  match r.rootCause with
  | some given => pure (some given)
  | none => e.annotate r

def opening (monitor status : Uuid) (r : ChangeRequest) (rootCause : Option String) : NewInterval where
  monitorId := monitor
  statusId := status
  startsAt := r.startsAt
  rootCause := rootCause
  createdBy := r.createdBy

/--
Open the interval of a request and close the most recently created one.
-/
def succeed (e : Engine) (new : NewInterval) : Operation StatusChange := do
  let prior ← (StoreCall.findLatest new.monitorId).perform
  let interval ← e.append new (prior.map (·.id))
  let pointer : PointerUpdate := { monitorId := new.monitorId, statusId := interval.statusId }
  (Call.setPointer pointer).perform
  return { interval, closedPrior := prior.map (·.id), pointer }

/--
Let the pointer of a monitor follow its most recently created interval.
-/
def settle (monitor : Uuid) : Operation (Option PointerUpdate) := do
  match ← (StoreCall.findLatest monitor).perform with
  | some latest => do
    let update : PointerUpdate := { monitorId := monitor, statusId := latest.statusId }
    (Call.setPointer update).perform
    return some update
  | none => return none

def cutOut (e : Engine) (target : Interval) : Operation DeletionOutcome := do
  let neighbors ← (StoreCall.findNeighbors target.monitorId target.startsAt).perform
  e.applyDeletion (.restitch target neighbors)
  let pointer ← settle target.monitorId
  return { deleted := target, repair := (DeletionPlan.restitch target neighbors).repair, pointer }

/--
Cut an interval out of its monitor's timeline unless it is the only one there.
-/
def cutOutOne (e : Engine) (target : Interval) : Operation DeletionOutcome := do
  let count ← (StoreCall.count target.monitorId).perform
  if count ≤ 1 then throw (.validation .onlyInterval) else e.cutOut target

theorem recordLocked_eq (e : Engine) (monitor status : Uuid) (r : ChangeRequest) :
    e.recordLocked monitor status r =
      e.rootCause r >>= fun rootCause => e.succeed (opening monitor status r rootCause) := by
  unfold recordLocked Engine.rootCause
  cases r.rootCause <;> rfl

theorem deleteLocked_eq (e : Engine) (id : Uuid) :
    e.deleteLocked id = get id >>= e.cutOutOne := by
  unfold deleteLocked
  apply bind_congr
  intro target
  unfold cutOutOne
  apply bind_congr
  intro count
  split
  . rfl
  . unfold cutOut settle
    apply bind_congr
    intro neighbors
    apply bind_congr
    intro applied
    rw [bind_assoc]
    apply bind_congr
    intro latest
    cases latest <;> simp only [bind_assoc, pure_bind]

end Engine

end StatusTimeline
