import StatusTimeline.Change

/-!
This module contains the calls that an interval store answers.
-/

namespace StatusTimeline

/--
A call to a store of intervals. `latest` is always the most recently created interval, never the one that
started last.
-/
inductive StoreCall where
  | findById (id : Uuid)
  | findLatest (monitor : Uuid)
  | findNeighbors (monitor : Uuid) (at_ : Instant)
  | insert (new : NewInterval)
  | updateEndsAt (id : Uuid) (endsAt : Option Instant)
  | delete (id : Uuid)
  | count (monitor : Uuid)
  | list (monitor : Uuid)
  | purge (cutoff : Instant)
  | append (new : NewInterval) (close : Option Uuid)
  | applyDeletion (plan : DeletionPlan)
deriving DecidableEq, Repr

abbrev StoreCall.Answer : StoreCall → Type
  | findById _ => Option Interval
  | findLatest _ => Option Interval
  | findNeighbors _ _ => Neighbors
  | insert _ => Interval
  | updateEndsAt _ _ => Unit
  | delete _ => Unit
  | count _ => Nat
  | list _ => List Interval
  | purge _ => Nat
  | append _ _ => Interval
  | applyDeletion _ => Unit

/--
What a store is given from outside when it inserts: a fresh identifier and the reading of the clock.
-/
structure Stamp where
  id : Uuid
  now : Instant
deriving DecidableEq, Inhabited, Repr

end StatusTimeline
