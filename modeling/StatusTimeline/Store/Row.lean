import StatusTimeline.Interval

/-!
This module contains the rows of interval stores and the two orders in which stores look at them: by
creation, and by start. The number of its insertion tells rows apart that agree in all times.
-/

namespace StatusTimeline

/--
The greatest element under an order; of several that are equal the last.
-/
def greatest? (le : α → α → Bool) : List α → Option α
  | [] => none
  | x :: xs =>
    match greatest? le xs with
    | none => some x
    | some y => if le x y then some y else some x

structure Row where
  seq : Nat
  interval : Interval
deriving DecidableEq, Inhabited, Repr

namespace Row

def recencyLe (a b : Row) : Bool :=
  a.interval.createdAt < b.interval.createdAt ||
    (a.interval.createdAt = b.interval.createdAt && a.seq ≤ b.seq)

def startLe (a b : Row) : Bool :=
  a.interval.startsAt < b.interval.startsAt ||
    (a.interval.startsAt = b.interval.startsAt && recencyLe a b)

def ofMonitor (monitor : Uuid) (rows : List Row) : List Row :=
  rows.filter (·.interval.monitorId = monitor)

def find? (id : Uuid) (rows : List Row) : Option Row := rows.find? (·.interval.id = id)

def latest? (monitor : Uuid) (rows : List Row) : Option Interval :=
  (greatest? recencyLe (ofMonitor monitor rows)).map (·.interval)

/--
The intervals of a monitor that start closest before and closest after an instant.
-/
def neighbors (monitor : Uuid) (at_ : Instant) (rows : List Row) : Neighbors where
  before :=
    (greatest? startLe ((ofMonitor monitor rows).filter (·.interval.startsAt < at_))).map
      (·.interval)
  after :=
    (greatest? (fun a b => startLe b a)
      ((ofMonitor monitor rows).filter (at_ < ·.interval.startsAt))).map (·.interval)

def timeline (monitor : Uuid) (rows : List Row) : List Interval :=
  ((ofMonitor monitor rows).mergeSort startLe).map (·.interval)

def withEnd (endsAt : Option Instant) (r : Row) : Row :=
  { r with interval := { r.interval with endsAt } }

def endedBefore (cutoff : Instant) (r : Row) : Bool :=
  match r.interval.endsAt with
  | some endsAt => endsAt < cutoff
  | none => false

end Row

end StatusTimeline
