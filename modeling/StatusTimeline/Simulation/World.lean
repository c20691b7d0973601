import StatusTimeline.Database
import StatusTimeline.Engine
import StatusTimeline.Lease.Acquisition
import StatusTimeline.Memory
import StatusTimeline.Simulation.Fault
import StatusTimeline.Simulation.Step

/-!
This module contains the world of a simulation apart from its tasks: the collaborators of the engine, two
clocks, faults, tokens kept under labels and the leases that are being renewed. The clock for waiting counts
milliseconds and stands still while anything can run; the clock for creation times stands still until it is
set.
-/

namespace StatusTimeline.Simulation

inductive Backing where
  | memory (m : Memory)
  | database (db : Database)
deriving Inhabited

structure Settings where
  engine : Engine := {}
  lockTimeout : Span := .ofSeconds 10
  leaseTtl : Span := .ofSeconds 30
  firstPause : Span := Lease.defaultPause
  annotationTimeout : Span := .ofSeconds 2
  lookupMillis : Nat := 0
deriving Inhabited

structure Renewal where
  key : String
  lease : Nat
  ttl : Span
  due : Nat
deriving DecidableEq, Inhabited, Repr

structure World where
  settings : Settings := {}
  backing : Backing
  spare : Slots := {}
  now : Nat := 0
  clock : Instant
  faults : List Fault := []
  tokens : List (String × Token) := []
  renewals : List Renewal := []
  lastLease : Nat := 0
  /-- The monitors whose pointer was to be set, in the order of the first time. -/
  tried : List Uuid := []
  lookups : Nat := 0
deriving Inhabited

namespace World

def strike (w : World) (method : Method) : Option Effect × World :=
  let (effect, faults) := Fault.strike method w.faults
  (effect, { w with faults })

def nextId (w : World) : Uuid :=
  .ofSerial <| match w.backing with
    | .memory m => m.store.lastSeq + 1
    | .database db => db.intervals.lastSeq + 1

/--
Answer a call to the store; none when the store has no creation time left to give.
-/
def answerStore (w : World) (c : StoreCall) : Option (Except Error c.Answer) × World :=
  let stamp : Stamp := { id := w.nextId, now := w.clock }
  match w.backing with
  | .memory m =>
    if m.store.exhausts w.clock c then (none, w)
    else
      let (answer, m) := m.answer stamp (.store c)
      (some answer, { w with backing := .memory m })
  | .database db =>
    let (answer, db) := db.answer stamp c
    (some answer, { w with backing := .database db })

/--
What a call to the store answers that finds nothing, where it is a search.
-/
def nothingFound : (c : StoreCall) → Option c.Answer
  | .findById _ => some none
  | .findLatest _ => some none
  | _ => none

/--
Answer a call to the store unless a fault hits it.
-/
def callStore (w : World) (c : StoreCall) : Option (Except Error c.Answer) × World :=
  match w.strike (.ofStore c) with
  | (some (.fail e), w) => (some (.error e), w)
  | (some .nothing, w) =>
    match nothingFound c with
    | some answer => (some (.ok answer), w)
    | none => w.answerStore c
  | (none, w) => w.answerStore c

def answerPointer (w : World) (update : PointerUpdate) : Except Error Unit × World :=
  match w.backing with
  | .memory m =>
    let (answer, m) := m.answer { id := w.nextId, now := w.clock } (.setPointer update)
    (answer, { w with backing := .memory m })
  | .database db =>
    let (answer, db) := db.setPointer w.clock update
    (answer, { w with backing := .database db })

/--
Give a monitor a current status unless a fault hits the call.
-/
def callPointer (w : World) (update : PointerUpdate) : Except Error Unit × World :=
  let tried := if update.monitorId ∈ w.tried then w.tried else w.tried ++ [update.monitorId]
  match { w with tried }.strike .setPointer with
  | (some (.fail e), w) => (.error e, w)
  | (_, w) => w.answerPointer update

def answerLookup (w : World) (user : Uuid) : Except Error Lookup :=
  match w.backing with
  | .memory m => .ok (.ofSearch (m.directory.find? user))
  | .database db => (db.resolve user).map .ofSearch

def callLookup (w : World) (user : Uuid) : Except Error Lookup × World :=
  match w.strike .resolve with
  | (some (.fail e), w) => (.error e, w)
  | (some .nothing, w) => (.ok .unknown, w)
  | (none, w) => (w.answerLookup user, w)

def providerOf : Via → Nat
  | .own => 0
  | .spare => 1

def slots (w : World) (provider : Nat) : Slots :=
  if provider = 0 then
    match w.backing with
    | .memory m => m.locks
    | .database _ => {}
  else w.spare

def setSlots (w : World) (provider : Nat) (slots : Slots) : World :=
  if provider = 0 then
    match w.backing with
    | .memory m => { w with backing := .memory { m with locks := slots } }
    | .database _ => w
  else { w with spare := slots }

def stopRenewal (w : World) (lease : Nat) : World :=
  { w with renewals := w.renewals.filter (·.lease ≠ lease) }

def startRenewal (w : World) (key : String) (lease : Nat) (ttl : Span) : World :=
  let due := w.now + (Lease.renewalPeriod ttl).millis
  { w with renewals := w.renewals ++ [{ key, lease, ttl, due }] }

/--
Let go of a token. A claim is given up; a lease stays until it runs out.
-/
def drop (w : World) (token : Token) : World :=
  match token.hold with
  | .claim provider ticket =>
    w.setSlots provider ((w.slots provider).giveUp token.key ticket)
  | .lease lease => w.stopRenewal lease

/--
Give a token back to an in-process provider, which takes its kind of token only.
-/
def releaseClaim (w : World) (token : Token) : Except Error Unit × World :=
  match token.hold with
  | .claim _ _ => (.ok (), w.drop token)
  | .lease _ => (.error (.lock (.foreignToken token.key)), w.drop token)

/--
Give a token back to the table of leases, which has no row for a token of another kind.
-/
def releaseLease (w : World) (db : Database) (token : Token) : Except Error Unit × World :=
  let lease := match token.hold with
    | .lease lease => lease
    | .claim _ _ => 0
  let (answer, db) := db.releaseLease token.key lease
  (answer, { w with backing := .database db }.drop token)

def answerRelease (w : World) (via : Via) (token : Token) : Except Error Unit × World :=
  match via, w.backing with
  | .own, .database db => w.releaseLease db token
  | _, _ => w.releaseClaim token

/--
Give a token back. A fault fails the call after that, when it has not failed already.
-/
def callRelease (w : World) (via : Via) (token : Token) : Except Error Unit × World :=
  match via with
  | .spare => w.answerRelease via token
  | .own =>
    match w.answerRelease via token with
    | (.error e, w) => (.error e, w)
    | (.ok _, w) =>
      match w.strike .release with
      | (some (.fail e), w) => (.error e, w)
      | (_, w) => (.ok (), w)

/--
Keep a token under a label. One that was there is let go of.
-/
def keep (w : World) (label : String) (token : Token) : World :=
  let old := (w.tokens.find? (·.1 = label)).map (·.2)
  let w := { w with tokens := (label, token) :: w.tokens.filter (·.1 ≠ label) }
  match old with
  | some old => w.drop old
  | none => w

def take? (w : World) (label : String) : Option (Token × World) :=
  (w.tokens.find? (·.1 = label)).map fun found =>
    (found.2, { w with tokens := w.tokens.filter (·.1 ≠ label) })

/--
Renew a lease that is due. A lease that was lost is not renewed any more.
-/
def renew (w : World) (r : Renewal) : World :=
  match w.backing with
  | .memory _ => w
  | .database db =>
    let (answer, db) := db.renewLease w.clock r.key r.lease r.ttl
    let w := { w with backing := .database db }.stopRenewal r.lease
    match answer with
    | .ok false => w
    | _ => w.startRenewal r.key r.lease r.ttl

/--
Let the time for waiting advance to an instant and renew the leases that are due then.
-/
def advance (w : World) (time : Nat) : World :=
  let due := w.renewals.filter (·.due ≤ time)
  due.foldl renew { w with now := time }

def activeKeys (w : World) : Except Error Nat :=
  match w.backing with
  | .memory m => .ok m.locks.activeKeys
  | .database db =>
    if db.closed then .error (.database .poolClosed) else .ok db.leases.rows.length

def pointer (w : World) (monitor : Uuid) : Option Uuid :=
  match w.backing with
  | .memory m => m.board.current? monitor
  | .database db => if db.closed then none else db.current? monitor

def elapsed (w : World) : Option Nat :=
  match w.backing with
  | .memory _ => some w.now
  | .database _ => none

/--
All that is to be seen of the world. Intervals are listed by their identifiers.
-/
def state (w : World) : State :=
  let known := match w.backing with
    | .memory m => some m.store.rows
    | .database db => if db.closed then none else some db.intervals.plain
  let intervals := ((known.getD []).map (·.interval)).mergeSort fun a b => a.id.le b.id
  { intervals
    count := known.map (·.length)
    pointers := (w.tried.mergeSort Uuid.le).map fun monitor => (monitor, w.pointer monitor)
    activeKeys := w.activeKeys.toOption
    elapsedMillis := w.elapsed
    lookups := if w.settings.engine.directory then some w.lookups else none }

def updated (w : World) : Answer :=
  match w.backing with
  | .memory _ => .unknownLabel
  | .database db =>
    if db.closed then .failed (.database .poolClosed)
    else
      match db.monitors with
      | none => .failed (.database (.missingTable "monitors"))
      | some rows => .ok (.updated db.intervals.rows (rows.mergeSort fun a b => a.id.le b.id))

def onLeases (w : World) (act : LeaseTable → Reply × LeaseTable) : Answer × World :=
  match w.backing with
  | .memory _ => (.unknownLabel, w)
  | .database db =>
    if db.closed then (.failed (.database .poolClosed), w)
    else
      let (reply, leases) := act db.leases
      (.ok reply, { w with backing := .database { db with leases } })

def closePool (w : World) : Answer × World :=
  match w.backing with
  | .memory _ => (.unknownLabel, w)
  | .database db => (.ok .nothing, { w with backing := .database { db with closed := true } })

end World

end StatusTimeline.Simulation
