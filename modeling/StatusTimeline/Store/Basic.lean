import StatusTimeline.Error
import StatusTimeline.Store.Call
import StatusTimeline.Store.Row
import StatusTimeline.Time.Timestamp

/-!
This module contains the store of intervals in memory. Creation times increase strictly over the store's
whole life: when the clock does not, they go on by microseconds. Appending and deleting are whole: they
change nothing when they fail.
-/

namespace StatusTimeline

/--
A store of intervals in memory: the rows in the order of insertion, the number of the last insertion, and the
creation time that it gave.
-/
structure Store where
  rows : List Row := []
  lastSeq : Nat := 0
  lastCreatedAt : Option Instant := none
deriving DecidableEq, Inhabited, Repr

namespace Store

def find? (s : Store) (id : Uuid) : Option Row := Row.find? id s.rows

def contains (s : Store) (id : Uuid) : Bool := (s.find? id).isSome

/--
The creation time of the next interval: the clock, or a microsecond after the last one when the clock is not
later than that.
-/
def nextCreatedAt (s : Store) (now : Instant) : Instant :=
  match s.lastCreatedAt with
  | some last => if now ≤ last then last.nextMicro else now
  | none => now

def insert (s : Store) (stamp : Stamp) (new : NewInterval) : Interval × Store :=
  let createdAt := s.nextCreatedAt stamp.now
  let interval := new.materialise stamp.id createdAt
  let seq := s.lastSeq + 1
  (interval,
    { rows := s.rows ++ [{ seq, interval }], lastSeq := seq, lastCreatedAt := some createdAt })

def setEnd (s : Store) (id : Uuid) (endsAt : Option Instant) : Store :=
  { s with rows := s.rows.map fun r => if r.interval.id = id then r.withEnd endsAt else r }

def erase (s : Store) (id : Uuid) : Store :=
  { s with rows := s.rows.filter (·.interval.id ≠ id) }

/--
Insert an interval and end `close` at its creation, unless that one is not stored.
-/
def append (s : Store) (stamp : Stamp) (new : NewInterval) (close : Option Uuid) :
    Except Error Interval × Store :=
  match close with
  | none => let (created, s) := s.insert stamp new; (.ok created, s)
  | some prior =>
    if s.contains prior then
      let (created, s) := s.insert stamp new
      (.ok created, s.setEnd prior (some created.createdAt))
    else (.error (.noInterval prior), s)

/--
Repair and remove, unless the target or the repaired interval is not stored.
-/
def applyDeletion (s : Store) (plan : DeletionPlan) : Except Error Unit × Store :=
  if ¬ s.contains plan.target then (.error (.noInterval plan.target), s)
  else
    match plan.repair with
    | none => (.ok (), s.erase plan.target)
    | some repair =>
      if s.contains repair.intervalId then
        (.ok (), (s.setEnd repair.intervalId repair.endsAt).erase plan.target)
      else (.error (.noInterval repair.intervalId), s)

def purge (s : Store) (cutoff : Instant) : Nat × Store :=
  let kept := s.rows.filter fun r => !r.endedBefore cutoff
  (s.rows.length - kept.length, { s with rows := kept })

def answer (s : Store) (stamp : Stamp) : (c : StoreCall) → Except Error c.Answer × Store
  | .findById id => (.ok ((s.find? id).map (·.interval)), s)
  | .findLatest monitor => (.ok (Row.latest? monitor s.rows), s)
  | .findNeighbors monitor at_ => (.ok (Row.neighbors monitor at_ s.rows), s)
  | .insert new => let (created, s) := s.insert stamp new; (.ok created, s)
  | .updateEndsAt id endsAt =>
    if s.contains id then (.ok (), s.setEnd id endsAt) else (.error (.noInterval id), s)
  | .delete id => if s.contains id then (.ok (), s.erase id) else (.error (.noInterval id), s)
  | .count monitor => (.ok (Row.ofMonitor monitor s.rows).length, s)
  | .list monitor => (.ok (Row.timeline monitor s.rows), s)
  | .purge cutoff => let (purged, s) := s.purge cutoff; (.ok purged, s)
  | .append new close => s.append stamp new close
  | .applyDeletion plan => s.applyDeletion plan

/--
Whether there is a creation time to give: the clock can be read, and the time lies in the calendar.
-/
def hasTime (s : Store) (now : Instant) : Bool := now.isReadable && (s.nextCreatedAt now).inCalendar

/--
Whether answering a call would need a creation time where there is none.
-/
def exhausts (s : Store) (now : Instant) : StoreCall → Bool
  | .insert _ => !s.hasTime now
  | .append _ none => !s.hasTime now
  | .append _ (some prior) => s.contains prior && !s.hasTime now
  | _ => false

end Store

end StatusTimeline
