import StatusTimeline.Error
import StatusTimeline.Store.Call
import StatusTimeline.Store.Row
import StatusTimeline.Time.Micros

/-!
This module contains the store of intervals in a database table. The table keeps times in whole
microseconds, takes creation times from the clock as they are, and notes when a row was last changed. Every
call is a transaction: it changes nothing when it fails.
-/

namespace StatusTimeline

structure TableRow extends Row where
  updatedAt : Instant
deriving DecidableEq, Inhabited, Repr

/--
A table of intervals: the rows in the order of insertion, and the number of the last insertion.
-/
structure Table where
  rows : List TableRow := []
  lastSeq : Nat := 0
deriving DecidableEq, Inhabited, Repr

namespace Table

/--
The rows without the times of their changes.
-/
def plain (t : Table) : List Row := t.rows.map (·.toRow)

def contains (t : Table) (id : Uuid) : Bool := (Row.find? id t.plain).isSome

/--
Whether the database refuses a text: it holds no NUL characters.
-/
def refusesText (s : String) : Bool := s.toList.any (· = '\x00')

def cutNew (new : NewInterval) : NewInterval :=
  { new with startsAt := new.startsAt.map Instant.cutToMicros }

def insert (t : Table) (stamp : Stamp) (new : NewInterval) : Except Error Interval × Table :=
  if new.rootCause.any refusesText then (.error (.database .nulCharacter), t)
  else
    let now := stamp.now.onDatabaseClock
    let interval := (cutNew new).materialise stamp.id now
    let seq := t.lastSeq + 1
    (.ok interval,
      { rows := t.rows ++ [{ seq, interval, updatedAt := now }], lastSeq := seq })

def setEnd (t : Table) (now : Instant) (id : Uuid) (endsAt : Option Instant) : Table :=
  { t with
    rows := t.rows.map fun r =>
      if r.interval.id = id then
        { r.withEnd (endsAt.map Instant.cutToMicros) with updatedAt := now.onDatabaseClock }
      else r }

def erase (t : Table) (id : Uuid) : Table :=
  { t with rows := t.rows.filter (·.interval.id ≠ id) }

/--
Insert an interval, then end `close` at its creation. The transaction is given up when that one is not
stored already; a fresh interval never closes itself.
-/
def append (t : Table) (stamp : Stamp) (new : NewInterval) (close : Option Uuid) :
    Except Error Interval × Table :=
  match t.insert stamp new with
  | (.error e, _) => (.error e, t)
  | (.ok created, inserted) =>
    match close with
    | none => (.ok created, inserted)
    | some prior =>
      if t.contains prior then
        (.ok created, inserted.setEnd stamp.now prior (some created.createdAt))
      else (.error (.noInterval prior), t)

/--
Repair, then remove. The transaction is given up when the repaired interval or the target is not stored.
-/
def applyDeletion (t : Table) (now : Instant) (plan : DeletionPlan) : Except Error Unit × Table :=
  let repaired : Except Error Table :=
    match plan.repair with
    | none => .ok t
    | some repair =>
      if t.contains repair.intervalId then .ok (t.setEnd now repair.intervalId repair.endsAt)
      else .error (.noInterval repair.intervalId)
  match repaired with
  | .error e => (.error e, t)
  | .ok repaired =>
    if repaired.contains plan.target then (.ok (), repaired.erase plan.target)
    else (.error (.noInterval plan.target), t)

def purge (t : Table) (cutoff : Instant) : Nat × Table :=
  let kept := t.rows.filter fun r => !r.endedBefore cutoff.cutToMicros
  (t.rows.length - kept.length, { t with rows := kept })

def answer (t : Table) (stamp : Stamp) : (c : StoreCall) → Except Error c.Answer × Table
  | .findById id => (.ok ((Row.find? id t.plain).map (·.interval)), t)
  | .findLatest monitor => (.ok (Row.latest? monitor t.plain), t)
  | .findNeighbors monitor at_ => (.ok (Row.neighbors monitor at_.cutToMicros t.plain), t)
  | .insert new => t.insert stamp new
  | .updateEndsAt id endsAt =>
    if t.contains id then (.ok (), t.setEnd stamp.now id endsAt) else (.error (.noInterval id), t)
  | .delete id => if t.contains id then (.ok (), t.erase id) else (.error (.noInterval id), t)
  | .count monitor => (.ok (Row.ofMonitor monitor t.plain).length, t)
  | .list monitor => (.ok (Row.timeline monitor t.plain), t)
  | .purge cutoff => let (purged, t) := t.purge cutoff; (.ok purged, t)
  | .append new close => t.append stamp new close
  | .applyDeletion plan => t.applyDeletion stamp.now plan

end Table

end StatusTimeline
