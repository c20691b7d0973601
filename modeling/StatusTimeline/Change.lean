import StatusTimeline.Interval

/-!
This module contains what goes into and comes out of the two writing operations: requests to record a status
change and their results, deletion plans and their results.
-/

namespace StatusTimeline

/--
A request to record a monitor's new status. Which monitor and which status may be missing: requests come
from outside and the engine refuses those.
-/
structure ChangeRequest where
  monitorId : Option Uuid := none
  statusId : Option Uuid := none
  startsAt : Option Instant := none
  rootCause : Option String := none
  createdBy : Option Uuid := none
  actor : Option Uuid := none
deriving DecidableEq, Inhabited, Repr

/--
The user that caused a change: the caller, else the stored creator.
-/
def ChangeRequest.initiatingUser (r : ChangeRequest) : Option Uuid := r.actor <|> r.createdBy

structure PointerUpdate where
  monitorId : Uuid
  statusId : Uuid
deriving DecidableEq, Inhabited, Repr

structure StatusChange where
  interval : Interval
  closedPrior : Option Uuid
  pointer : PointerUpdate
deriving DecidableEq, Inhabited, Repr

/--
A new end for an interval; none opens it again.
-/
structure EndRepair where
  intervalId : Uuid
  endsAt : Option Instant
deriving DecidableEq, Inhabited, Repr

/--
What a store has to apply to delete an interval without leaving a hole.
-/
structure DeletionPlan where
  target : Uuid
  repair : Option EndRepair
deriving DecidableEq, Inhabited, Repr

structure DeletionOutcome where
  deleted : Interval
  repair : Option EndRepair
  /-- None only when no interval is left that carries a status. -/
  pointer : Option PointerUpdate
deriving DecidableEq, Inhabited, Repr

/--
Join the neighbours of an interval that goes: the one before takes over its span and ends where the one
after starts, or opens again when nothing follows. Without one before there is nothing to repair.
-/
def DeletionPlan.restitch (target : Interval) (neighbors : Neighbors) : DeletionPlan where
  target := target.id
  repair := neighbors.before.map fun before =>
    { intervalId := before.id, endsAt := neighbors.after.map (·.startsAt) }

end StatusTimeline
