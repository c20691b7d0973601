import StatusTimeline.Actor
import StatusTimeline.Board
import StatusTimeline.Lease.Table
import StatusTimeline.Store.Table

/-!
This module contains the collaborators of the engine that live in a database: the tables of intervals and of
leases, and the platform's own tables of monitors and of users, which may be missing.
-/

namespace StatusTimeline

structure Database where
  intervals : Table := {}
  leases : LeaseTable := {}
  monitors : Option (List MonitorRow) := some []
  users : Option Directory := some {}
  closed : Bool := false
deriving Inhabited

namespace Database

/--
Do something with the database unless its pool is closed.
-/
def guarded (db : Database) (act : Database → Except Error α × Database) :
    Except Error α × Database :=
  if db.closed then (.error (.database .poolClosed), db) else act db

def answer (db : Database) (stamp : Stamp) (c : StoreCall) : Except Error c.Answer × Database :=
  db.guarded fun db =>
    let (answer, intervals) := db.intervals.answer stamp c
    (answer, { db with intervals })

/--
Give a monitor a current status. The monitor must have a row.
-/
def setPointer (db : Database) (now : Instant) (update : PointerUpdate) :
    Except Error Unit × Database :=
  db.guarded fun db =>
    match db.monitors with
    | none => (.error (.database (.missingTable "monitors")), db)
    | some rows =>
      if rows.any (·.id = update.monitorId) then
        let row : MonitorRow := {
          id := update.monitorId
          currentStatus := some update.statusId
          updatedAt := some now.onDatabaseClock }
        (.ok (), { db with
          monitors := some (rows.map fun r => if r.id = update.monitorId then row else r) })
      else (.error (.notFound (.monitor update.monitorId)), db)

def current? (db : Database) (monitor : Uuid) : Option Uuid := do
  let rows ← db.monitors
  let row ← rows.find? (·.id = monitor)
  row.currentStatus

def resolve (db : Database) (user : Uuid) : Except Error (Option Actor) :=
  if db.closed then .error (.database .poolClosed)
  else
    match db.users with
    | none => .error (.database (.missingTable "users"))
    | some users => .ok (users.find? user)

def withLeases (db : Database) (key : String) (act : LeaseTable → Bool × LeaseTable) :
    Except Error Bool × Database :=
  db.guarded fun db =>
    if Table.refusesText key then (.error (.database .nulCharacter), db)
    else
      let (answer, leases) := act db.leases
      (.ok answer, { db with leases })

def tryLease (db : Database) (now : Instant) (key : String) (lease : Nat) (ttl : Span) :
    Except Error Bool × Database :=
  db.withLeases key fun t => t.tryAcquire key lease now ttl

def renewLease (db : Database) (now : Instant) (key : String) (lease : Nat) (ttl : Span) :
    Except Error Bool × Database :=
  db.withLeases key fun t => t.renew key lease now ttl

def releaseLease (db : Database) (key : String) (lease : Nat) : Except Error Unit × Database :=
  match db.withLeases key fun t => t.release key lease with
  | (.ok true, db) => (.ok (), db)
  | (.ok false, db) => (.error (.lock (.leaseLost key)), db)
  | (.error e, db) => (.error e, db)

end Database

end StatusTimeline
