import StatusTimeline.Simulation.World

/-!
This module contains the running of programs in a simulated world. A program runs on until it has to wait:
for a lock, for the next attempt to acquire a lease, or for a lookup. The token that it holds goes with it,
so that it can be let go of when the program is cut off.
-/

namespace StatusTimeline.Simulation

structure Terms where
  via : Via := .own
  timeout : Span
  ttl : Span
deriving DecidableEq, Inhabited, Repr

inductive Outcome where
  | answered (a : Answer)
  | granted (label : String) (token : Token)
deriving Inhabited

inductive Pause where
  | claim (key : String) (ticket deadline : Nat)
      (next : Except Error Token → Program Outcome)
  | lease (key : String) (lease : Nat) (acquisition : Acquisition) (wake : Nat)
      (next : Except Error Token → Program Outcome)
  | lookup (user : Uuid) (wake : Nat) (inTime : Bool)
      (next : Except Error Lookup → Program Outcome)

structure Run where
  terms : Terms
  held : Option Token
  pause : Pause

inductive Progress where
  | finished (a : Answer)
  | waiting (r : Run)

inductive Locking where
  | granted (token : Token)
  | refused (e : Error)
  | waiting (pause : (Except Error Token → Program Outcome) → Pause)

namespace World

def dropHeld (w : World) (held : Option Token) : World :=
  match held with
  | some token => w.drop token
  | none => w

/--
Try to acquire a lease, or tell when to try again.
-/
def tryLease (w : World) (terms : Terms) (key : String) (lease : Nat)
    (acquisition : Acquisition) : Locking × World :=
  match w.backing with
  | .memory _ => (.refused (.database .poolClosed), w)
  | .database db =>
    let (answer, db) := db.tryLease w.clock key lease terms.ttl
    let w := { w with backing := .database db }
    match answer with
    | .error e => (.refused e, w)
    | .ok true =>
      (.granted { key, hold := .lease lease }, w.startRenewal key lease terms.ttl)
    | .ok false =>
      match acquisition.pause? with
      | none => (.refused (.lockTimeout key .simulated), w)
      | some (pause, acquisition) =>
        (.waiting (.lease key lease acquisition (w.now + max pause.millis 1)), w)

/--
Claim a key of an in-process provider. A key that is not free when there is no time to wait is given up.
-/
def tryClaim (w : World) (terms : Terms) (key : String) : Locking × World :=
  let provider := providerOf terms.via
  let (ticket, slots) := (w.slots provider).enter key
  if slots.granted ticket then
    (.granted { key, hold := .claim provider ticket }, w.setSlots provider slots)
  else if terms.timeout.millis = 0 then
    (.refused (.lockTimeout key .simulated), w.setSlots provider (slots.giveUp key ticket))
  else (.waiting (.claim key ticket (w.now + terms.timeout.millis)), w.setSlots provider slots)

/--
The least pause between two attempts to acquire a lease: an attempt takes a moment itself.
-/
def shortestPause : Span := .ofMillis 1

def beginLock (w : World) (terms : Terms) (key : String) : Locking × World :=
  match terms.via with
  | .spare => w.tryClaim terms key
  | .own =>
    match w.strike .lock with
    | (some (.fail e), w) => (.refused e, w)
    | (_, w) =>
      match w.backing with
      | .memory _ => w.tryClaim terms key
      | .database _ =>
        let lease := w.lastLease + 1
        { w with lastLease := lease }.tryLease terms key lease
          { timeout := terms.timeout
            backoff := ⟨max w.settings.firstPause.nanos shortestPause.nanos⟩ }

/--
Start to look a user up. Only a lookup that takes no time is answered at once.
-/
def beginLookup (w : World) (user : Uuid) :
    ((Except Error Lookup) ⊕ (Nat × Bool)) × World :=
  let w := { w with lookups := w.lookups + 1 }
  let lookup := w.settings.lookupMillis
  let limit := w.settings.annotationTimeout.millis
  if lookup = 0 then
    let (answer, w) := w.callLookup user
    (.inl answer, w)
  else if lookup ≤ limit then (.inr (w.now + lookup, true), w)
  else if limit = 0 then (.inl (.ok .timedOut), w)
  else (.inr (w.now + limit, false), w)

def run (terms : Terms) (held : Option Token) : Program Outcome → World → Progress × World
  | .done (.answered a), w => (.finished a, w.dropHeld held)
  | .done (.granted label token), w => (.finished (.ok (.key token.key)), w.keep label token)
  | .call (.store c) next, w =>
    match w.callStore c with
    | (some answer, w) => run terms held (next answer) w
    | (none, w) => (.finished .panicked, w.dropHeld held)
  | .call (.setPointer update) next, w =>
    let (answer, w) := w.callPointer update
    run terms held (next answer) w
  | .call (.resolve user) next, w =>
    match w.beginLookup user with
    | (.inl answer, w) => run terms held (next answer) w
    | (.inr (wake, inTime), w) =>
      (.waiting { terms, held, pause := .lookup user wake inTime next }, w)
  | .call (.lock key) next, w =>
    match w.beginLock terms key with
    | (.granted token, w) => run terms (some token) (next (.ok token)) w
    | (.refused e, w) => run terms held (next (.error e)) w
    | (.waiting pause, w) => (.waiting { terms, held, pause := pause next }, w)
  | .call (.release token) next, w =>
    let (answer, w) := w.callRelease terms.via token
    run terms none (next answer) w

end World

namespace Run

def wake (r : Run) : Nat :=
  match r.pause with
  | .claim _ _ deadline _ => deadline
  | .lease _ _ _ wake _ => wake
  | .lookup _ wake _ _ => wake

def isReady (w : World) (r : Run) : Bool :=
  r.wake ≤ w.now || match r.pause with
    | .claim _ ticket _ _ => (w.slots (World.providerOf r.terms.via)).granted ticket
    | _ => false

/--
Let a program go on that can, until it has to wait again.
-/
def resume (r : Run) (w : World) : Progress × World :=
  match r.pause with
  | .claim key ticket deadline next =>
    let provider := World.providerOf r.terms.via
    let slots := w.slots provider
    if slots.granted ticket then
      let token : Token := { key, hold := .claim provider ticket }
      w.run r.terms (some token) (next (.ok token))
    else if deadline ≤ w.now then
      (w.setSlots provider (slots.giveUp key ticket)).run r.terms r.held
        (next (.error (.lockTimeout key .simulated)))
    else (.waiting r, w)
  | .lease key lease acquisition wake next =>
    if wake ≤ w.now then
      match w.tryLease r.terms key lease acquisition with
      | (.granted token, w) => w.run r.terms (some token) (next (.ok token))
      | (.refused e, w) => w.run r.terms r.held (next (.error e))
      | (.waiting pause, w) => (.waiting { r with pause := pause next }, w)
    else (.waiting r, w)
  | .lookup user wake inTime next =>
    if wake ≤ w.now then
      if inTime then
        let (answer, w) := w.callLookup user
        w.run r.terms r.held (next answer)
      else w.run r.terms r.held (next (.ok .timedOut))
    else (.waiting r, w)

/--
Cut a program off: it lets go of its token, or of its place in the queue for one.
-/
def cancel (r : Run) (w : World) : World :=
  let w := match r.pause with
    | .claim _ ticket _ _ =>
      let provider := World.providerOf r.terms.via
      w.setSlots provider ((w.slots provider).withdraw ticket)
    | _ => w
  w.dropHeld r.held

end Run

end StatusTimeline.Simulation
