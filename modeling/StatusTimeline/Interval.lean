import StatusTimeline.Time.Instant
import StatusTimeline.Uuid

/-!
This module contains status intervals, the spans of time during which a monitor held one status, and the
order in which a timeline presents them.
-/

namespace StatusTimeline

/--
A span of time during which a monitor held one status. Without an end it is open: the status is the
current one. Creation times are given by the store and tell which interval is the most recent; starts only
order the timeline.
-/
structure Interval where
  id : Uuid
  monitorId : Uuid
  statusId : Uuid
  startsAt : Instant
  endsAt : Option Instant
  createdAt : Instant
  rootCause : Option String
  createdBy : Option Uuid
deriving DecidableEq, Inhabited, Repr

/--
What a store is given to make an interval of. Without a start the interval starts at its creation.
-/
structure NewInterval where
  monitorId : Uuid
  statusId : Uuid
  startsAt : Option Instant
  rootCause : Option String
  createdBy : Option Uuid
deriving DecidableEq, Inhabited, Repr

structure Neighbors where
  before : Option Interval
  after : Option Interval
deriving DecidableEq, Inhabited, Repr

namespace Interval

def isOpen (i : Interval) : Bool := i.endsAt.isNone

def timelineCompare (a b : Interval) : Ordering :=
  if a.startsAt < b.startsAt then .lt
  else if b.startsAt < a.startsAt then .gt
  else if a.createdAt < b.createdAt then .lt
  else if b.createdAt < a.createdAt then .gt
  else .eq

/--
Whether one interval comes no later than another by start, then by creation.
-/
def timelineLe (a b : Interval) : Bool := timelineCompare a b ≠ .gt

/--
The intervals sorted by start, then by creation; those equal in both keep their order.
-/
def sorted (intervals : List Interval) : List Interval := intervals.mergeSort timelineLe

end Interval

namespace NewInterval

def materialise (new : NewInterval) (id : Uuid) (createdAt : Instant) : Interval where
  id := id
  monitorId := new.monitorId
  statusId := new.statusId
  startsAt := new.startsAt.getD createdAt
  endsAt := none
  createdAt := createdAt
  rootCause := new.rootCause
  createdBy := new.createdBy

theorem isOpen_materialise (new : NewInterval) (id : Uuid) (createdAt : Instant) :
    (new.materialise id createdAt).isOpen = true := rfl

end NewInterval

end StatusTimeline
