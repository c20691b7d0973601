import StatusTimeline.Database
import StatusTimeline.Proofs.Interleaving.State
import StatusTimeline.Proofs.Leasing.Owner
import StatusTimeline.Proofs.Store.Table

/-!
This module contains the interleavings of any number of clients that record status changes in one database and exclude
each other by leases. Each client executes the program of its request, and each call of a program is one transaction. A
client may rest for any time between two calls, so that its lease runs out and another client takes the key over, or
the lease may be renewed while the client rests.
-/

namespace StatusTimeline

namespace Leasing

open Interleaving (Client Entry Reply)

/--
What all clients share: the database, the latest reading of the clock, and the calls that were answered so far, latest
first.
-/
structure Shared where
  db : Database := {}
  clock : Instant := .ofNanos 0
  trace : List Entry := []

/--
The answer of a database to a call of a client, whose lease has its number; none where the client goes on waiting for a
lease.
-/
def answer (ttl : Span) (db : Database) (i : Nat) (stamp : Stamp) :
    (c : Call) → Option (Except Error c.Answer × Database)
  | .store c => some (db.answer stamp c)
  | .setPointer update => some (db.setPointer stamp.now update)
  | .resolve user => some ((db.resolve user).map .ofSearch, db)
  | .lock key =>
    match db.tryLease stamp.now key i ttl with
    | (.ok true, db) => some (.ok { key, hold := .lease i }, db)
    | (.ok false, _) => none
    | (.error err, db) => some (.error err, db)
  | .release token =>
    match token.hold with
    | .lease lease => some (db.releaseLease token.key lease)
    | .claim _ _ => some (.error (.lock (.foreignToken token.key)), db)

namespace Shared

/--
Whether the clock may read an instant now. It does not go back.
-/
def reads (sh : Shared) (now : Instant) : Bool := sh.clock ≤ now && now.isReadable

def note (sh : Shared) (en : Entry) : Shared := { sh with trace := en :: sh.trace }

/--
Answer a call of a client and note that it was answered. The identifiers of new intervals are new. Waiting for a lease
may time out, and so may the search for a user.
-/
def reply (ttl : Span) (sh : Shared) (i : Nat) : Reply → (c : Call) → Option (Except Error c.Answer × Shared)
  | .served stamp, c =>
    if sh.reads stamp.now && !sh.db.intervals.contains stamp.id then
      (answer ttl sh.db i stamp c).map fun (answer, db) =>
        (answer, { sh with db, clock := stamp.now }.note { client := i, call := c, reply := .served stamp, answer })
    else none
  | .expired waited, .lock key =>
    let answer : Except Error Token := .error (.lockTimeout key waited)
    some (answer, sh.note { client := i, call := .lock key, reply := .expired waited, answer })
  | .expired waited, .resolve user =>
    let answer : Except Error Lookup := .ok .timedOut
    some (answer, sh.note { client := i, call := .resolve user, reply := .expired waited, answer })
  | .expired _, _ => none

end Shared

section Replies

variable {ttl : Span} {db db' : Database} {sh sh' : Shared} {i : Nat} {how : Reply} {stamp : Stamp}

theorem answer_store {c : StoreCall} {a : Except Error c.Answer}
    (h : answer ttl db i stamp (.store c) = some (a, db')) :
    (∃ err, a = .error err ∧ db' = db) ∨
      ∃ intervals, db.intervals.answer stamp c = (a, intervals) ∧ db' = { db with intervals } := by
  simp only [answer, Database.answer, Database.guarded] at h
  split at h
  . cases h
    exact .inl ⟨_, rfl, rfl⟩
  . cases h
    exact .inr ⟨_, rfl, rfl⟩

theorem answer_findLatest {monitor : Uuid} {a : Except Error (Option Interval)}
    (h : answer ttl db i stamp (.store (.findLatest monitor)) = some (a, db')) :
    db' = db ∧ ∀ latest, a = .ok latest → latest = Row.latest? monitor db.intervals.plain := by
  rcases answer_store h with ⟨err, rfl, rfl⟩ | ⟨intervals, hanswer, rfl⟩
  . exact ⟨rfl, fun latest habs => by cases habs⟩
  . cases hanswer
    exact ⟨rfl, fun latest hlatest => (Except.ok.inj hlatest).symm⟩

theorem answer_append {new : NewInterval} {close : Option Uuid} {a : Except Error Interval}
    (h : answer ttl db i stamp (.store (.append new close)) = some (a, db')) :
    (∃ err, a = .error err ∧ db' = db) ∨
      ∃ created intervals, db.intervals.append stamp new close = (.ok created, intervals) ∧ a = .ok created ∧
        db' = { db with intervals } := by
  rcases answer_store h with ⟨err, rfl, rfl⟩ | ⟨intervals, hanswer, rfl⟩
  . exact .inl ⟨err, rfl, rfl⟩
  . cases a with
    | ok created => exact .inr ⟨created, intervals, hanswer, rfl, rfl⟩
    | error err =>
      have hsame : intervals = db.intervals := Table.append_error hanswer
      exact .inl ⟨err, rfl, by rw [hsame]⟩

theorem answer_setPointer {update : PointerUpdate} {a : Except Error Unit}
    (h : answer ttl db i stamp (.setPointer update) = some (a, db')) :
    db'.intervals = db.intervals ∧ db'.leases = db.leases := by
  simp only [answer, Database.setPointer, Database.guarded] at h
  split at h
  . cases h
    exact ⟨rfl, rfl⟩
  . split at h
    . cases h
      exact ⟨rfl, rfl⟩
    . split at h <;> cases h <;> exact ⟨rfl, rfl⟩

theorem withLeases_cases {key : String} {act : LeaseTable → Bool × LeaseTable} {a : Except Error Bool}
    (h : db.withLeases key act = (a, db')) :
    (∃ err, a = .error err ∧ db' = db) ∨
      ∃ leases done, act db.leases = (done, leases) ∧ a = .ok done ∧ db' = { db with leases } := by
  simp only [Database.withLeases, Database.guarded] at h
  split at h
  . cases h
    exact .inl ⟨_, rfl, rfl⟩
  . split at h
    . cases h
      exact .inl ⟨_, rfl, rfl⟩
    . cases h
      exact .inr ⟨_, _, rfl, rfl, rfl⟩

theorem answer_lock {key : String} {a : Except Error Token}
    (h : answer ttl db i stamp (.lock key) = some (a, db')) :
    (∃ err, a = .error err ∧ db' = db) ∨
      ∃ leases, db.leases.tryAcquire key i stamp.now ttl = (true, leases) ∧
        a = .ok { key, hold := .lease i } ∧ db' = { db with leases } := by
  simp only [answer] at h
  split at h
  . next hlease =>
    cases h
    rcases withLeases_cases hlease with ⟨err, herr, _⟩ | ⟨leases, done, hact, hdone, rfl⟩
    . cases herr
    . cases hdone
      exact .inr ⟨leases, hact, rfl, rfl⟩
  . cases h
  . next hlease =>
    cases h
    rcases withLeases_cases hlease with ⟨err, herr, rfl⟩ | ⟨leases, done, _, hdone, _⟩
    . exact .inl ⟨_, rfl, rfl⟩
    . cases hdone

theorem answer_release {key : String} {lease : Nat} {a : Except Error Unit}
    (h : answer ttl db i stamp (.release { key, hold := .lease lease }) = some (a, db')) :
    db' = db ∨ db' = { db with leases := (db.leases.release key lease).2 } := by
  simp only [answer, Database.releaseLease, Option.some.injEq] at h
  have hdb : db' = (db.withLeases key fun t => t.release key lease).2 := by
    split at h <;> cases h <;> simp_all
  cases hwith : db.withLeases key fun t => t.release key lease with
  | mk outcome db₁ =>
    rw [hdb, hwith]
    rcases withLeases_cases hwith with ⟨err, _, rfl⟩ | ⟨leases, done, hact, _, rfl⟩
    . exact .inl rfl
    . rw [hact]
      exact .inr rfl

namespace Shared

/--
A call that is answered is answered by the database while the clock goes on, or times out.
-/
theorem reply_cases {c : Call} {a : Except Error c.Answer} (h : sh.reply ttl i how c = some (a, sh')) :
    (∃ stamp db, how = .served stamp ∧ sh.reads stamp.now = true ∧ sh.db.intervals.contains stamp.id = false ∧
      answer ttl sh.db i stamp c = some (a, db) ∧
      sh' = { sh with db, clock := stamp.now }.note { client := i, call := c, reply := how, answer := a }) ∨
    ∃ waited, how = .expired waited ∧ sh' = sh.note { client := i, call := c, reply := how, answer := a } := by
  cases how with
  | served stamp =>
    left
    simp only [reply] at h
    split at h
    . next hreads =>
      obtain ⟨⟨a', db⟩, hanswer, heq⟩ := Option.map_eq_some_iff.1 h
      cases heq
      simp only [Bool.and_eq_true, Bool.not_eq_true'] at hreads
      exact ⟨stamp, db, rfl, hreads.1, hreads.2, hanswer, rfl⟩
    . cases h
  | expired waited =>
    right
    cases c with
    | lock key =>
      cases h
      exact ⟨waited, rfl, rfl⟩
    | resolve user =>
      cases h
      exact ⟨waited, rfl, rfl⟩
    | _ => cases h

end Shared

end Replies

/--
A state of an interleaving: what is shared, and the clients in the order in which they began. A client that was
cancelled is none.
-/
structure State where
  shared : Shared := {}
  clients : List (Option Client) := []

namespace State

def start (monitors : Option (List MonitorRow)) (users : Option Directory) : State :=
  { shared := { db := { monitors, users } } }

def client? (s : State) (i : Nat) : Option Client := s.clients[i]?.join

end State

inductive Event where
  | begin (request : ChangeRequest)
  | advance (i : Nat) (how : Reply)
  /-- The lease of a client on a key is renewed, if it is still there. -/
  | renew (i : Nat) (key : String) (now : Instant)
  /-- A client goes away. Its lease stays until it has run out. -/
  | cancel (i : Nat)
deriving DecidableEq, Repr

def Event.reading? : Event → Option Instant
  | advance _ (.served stamp) => some stamp.now
  | renew _ _ now => some now
  | _ => none

def next (e : Engine) (ttl : Span) (s : State) : Event → Option State
  | .begin r =>
    some { s with clients := s.clients ++ [some { request := .record r, rest := (e.record r).run }] }
  | .advance i how =>
    match s.client? i with
    | some { request, rest := .call c next, after } =>
      (s.shared.reply ttl i how c).map fun (answer, shared) =>
        { shared, clients := s.clients.set i (some { request, rest := next answer, after }) }
    | _ => none
  | .renew i key now =>
    if (s.client? i).isSome && s.shared.reads now then
      some { s with shared := { s.shared with db := (s.shared.db.renewLease now key i ttl).2, clock := now } }
    else none
  | .cancel i =>
    match s.client? i with
    | some _ => some { s with clients := s.clients.set i none }
    | none => none

def play (e : Engine) (ttl : Span) (s : State) : List Event → Option State
  | [] => some s
  | ev :: evs => (next e ttl s ev).bind fun s => play e ttl s evs

end Leasing

namespace Interleaving.Entry

def appends (monitor : Uuid) : Entry → Bool
  | { call := .store (.append new _), answer := .ok _, .. } => new.monitorId = monitor
  | _ => false

def looks (i : Nat) (monitor : Uuid) (en : Entry) : Bool :=
  en.client = i && en.call = .store (.findLatest monitor)

end Interleaving.Entry

namespace Leasing

open Interleaving (Client Entry Reply)

/--
Whether an interval was appended for a monitor since a client last looked at the monitor's latest one.
-/
def stale (i : Nat) (monitor : Uuid) : List Entry → Bool
  | [] => false
  | en :: older => !en.looks i monitor && (en.appends monitor || stale i monitor older)

/--
Whether an interval was appended for a monitor by a client that others had overtaken since it had looked at the latest
one.
-/
def overtaken (monitor : Uuid) : List Entry → Bool
  | [] => false
  | en :: older => en.appends monitor && stale en.client monitor older || overtaken monitor older

/--
The event grants a client the lock of a monitor although there still is the lease of another one, which has run out
before its client has come to an end.
-/
def State.TakesOver (st : State) (ev : Event) (monitor : Uuid) : Prop :=
  ∃ i stamp c row other, ev = .advance i (.served stamp) ∧ st.client? i = some c ∧
    c.pending? = some (.lock (Engine.lockKey monitor)) ∧
    st.shared.db.leases.row? (Engine.lockKey monitor) = some row ∧
    row.expiresAt ≤ stamp.now.onDatabaseClock ∧
    row.lease ≠ i ∧ st.client? row.lease = some other ∧ other.pending?.isSome = true

end Leasing

end StatusTimeline
