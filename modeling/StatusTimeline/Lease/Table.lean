import StatusTimeline.Time.Micros

/-!
This module contains the table of leases, by which processes that share a database exclude each other. A
lease that ran out may be taken over; until then its holder is alone, and renews it to stay so.
-/

namespace StatusTimeline

structure LeaseRow where
  key : String
  lease : Nat
  acquiredAt : Instant
  expiresAt : Instant
deriving DecidableEq, Inhabited, Repr

/--
The table of leases, which has at most one row for a key.
-/
structure LeaseTable where
  rows : List LeaseRow := []
deriving DecidableEq, Inhabited, Repr

namespace LeaseTable

def row? (t : LeaseTable) (key : String) : Option LeaseRow := t.rows.find? (·.key = key)

def isOwn (t : LeaseTable) (key : String) (lease : Nat) : Bool :=
  t.rows.any fun r => r.key = key && r.lease = lease

/--
Try to lease a key: it succeeds when the key has no row or its row has expired.
-/
def tryAcquire (t : LeaseTable) (key : String) (lease : Nat) (now : Instant) (ttl : Span) :
    Bool × LeaseTable :=
  let row : LeaseRow := {
    key
    lease
    acquiredAt := now.onDatabaseClock
    expiresAt := now.afterOnDatabaseClock ttl }
  match t.row? key with
  | none => (true, { rows := t.rows ++ [row] })
  | some current =>
    if current.expiresAt ≤ now.onDatabaseClock then
      (true, { rows := t.rows.map fun r => if r.key = key then row else r })
    else (false, t)

/--
Put off the end of a lease, and tell whether the row was still its own.
-/
def renew (t : LeaseTable) (key : String) (lease : Nat) (now : Instant) (ttl : Span) :
    Bool × LeaseTable :=
  (t.isOwn key lease,
    { rows := t.rows.map fun r =>
        if r.key = key && r.lease = lease then { r with expiresAt := now.afterOnDatabaseClock ttl }
        else r })

/--
Remove the row of a lease, and tell whether it was still there.
-/
def release (t : LeaseTable) (key : String) (lease : Nat) : Bool × LeaseTable :=
  (t.isOwn key lease, { rows := t.rows.filter fun r => !(r.key = key && r.lease = lease) })

end LeaseTable

end StatusTimeline
