import StatusTimeline.Http.Router
import StatusTimeline.Simulation.Run

/-!
This module contains steps that are under way. `Session.start` begins a step, `Session.poll` lets it go on as
far as it can, and `Session.cancel` cuts it off.
-/

namespace StatusTimeline.Simulation

inductive Future where
  | finished (a : Answer)
  | idle (wake : Nat) (next : Option Step)
  | running (r : Run)
  | together (fs : List Future)
  /-- Wait for a step until a time at the most. -/
  | bounded (deadline : Nat) (f : Future)
  | joining (task : Nat)
  | stopping (sweeper : Nat)
  /-- Sweep at a time, and again after every interval. -/
  | sweeping (retention : Retention) (intervalMillis next : Nat)
deriving Inhabited

structure Task where
  id : Nat
  future : Future
  /-- The times at which the task goes on by itself, and the turn in which each of them was set. -/
  alarms : List (Nat × Nat) := []
  cancelled : Bool := false
  cutOff : Bool := false
deriving Inhabited

/--
A simulation in progress: the world, whether answers tell its state, the tasks by age, the labels of tasks and
sweepers, the tasks whose turn has come, in that order, and how many turns the tasks have had.
-/
structure Session where
  world : World
  traced : Bool := false
  tasks : List Task := []
  lastTask : Nat := 0
  labels : List (String × Nat) := []
  sweepers : List (String × Nat) := []
  turns : List Nat := []
  turnCount : Nat := 0
deriving Inhabited

namespace Future

def answer? : Future → Option Answer
  | finished a => some a
  | _ => none

def ofProgress : Progress → Future
  | .finished a => finished a
  | .waiting r => running r

def gathered (fs : List Future) : Future :=
  match fs.mapM answer? with
  | some answers => finished (.several answers)
  | none => together fs

mutual

def wakes : Future → List Nat
  | idle wake _ => [wake]
  | running r => [r.wake]
  | together fs => allWakes fs
  | bounded deadline f => f.wakes ++ [deadline]
  | sweeping _ _ next => [next]
  | _ => []

def allWakes : List Future → List Nat
  | [] => []
  | f :: fs => f.wakes ++ allWakes fs

end

def nextWake (f : Future) : Option Nat := f.wakes.min?

end Future

namespace Task

/--
Let a task go on differently from a turn on. Alarms that it has set before stay as they are.
-/
def proceed (t : Task) (future : Future) (turn : Nat) : Task :=
  { t with future, alarms := future.wakes.map fun wake => (wake, (t.alarms.lookup wake).getD turn) }

/--
The turn in which the first alarm was set that has gone off by now.
-/
def alarmed (t : Task) (now : Nat) : Nat :=
  (((t.alarms.filter (·.1 ≤ now)).map (·.2)).min?).getD 0

end Task

namespace Session

def hasFinished (s : Session) (task : Nat) : Bool :=
  s.tasks.any fun t => t.id = task && t.future.answer?.isSome

def outcomeOf? (s : Session) (task : Nat) : Option Answer := do
  let t ← s.tasks.find? (·.id = task)
  let answer ← t.future.answer?
  return if t.cutOff then .cancelled else .joined answer

def modifyWorld (s : Session) (change : World → World) : Session :=
  { s with world := change s.world }

def withWorld (s : Session) (act : World → α × World) : α × Session :=
  let (a, world) := act s.world
  (a, { s with world })

def addTask (s : Session) (future : Future) : Nat × Session :=
  let id := s.lastTask + 1
  (id, { s with tasks := s.tasks ++ [{ id, future }], lastTask := id })

def cancelTask (s : Session) (task : Nat) : Session :=
  { s with tasks := s.tasks.map fun t => if t.id = task then { t with cancelled := true } else t }

def ownTerms (s : Session) : Terms where
  timeout := s.world.settings.lockTimeout
  ttl := s.world.settings.leaseTtl

def runProgram (s : Session) (terms : Terms) (p : Program Outcome) : Future × Session :=
  let (progress, s) := s.withWorld (World.run terms none p)
  (.ofProgress progress, s)

def runOperation (s : Session) (reply : α → Reply) (operation : Operation α) : Future × Session :=
  s.runProgram s.ownTerms
    (operation.run.bind fun result => .done (.answered (.ofResult reply result)))

def replyOf : (c : StoreCall) → c.Answer → Reply
  | .findById _, i => .found i
  | .findLatest _, i => .found i
  | .findNeighbors _ _, n => .neighbors n
  | .insert _, i => .interval i
  | .updateEndsAt _ _, _ => .nothing
  | .delete _, _ => .nothing
  | .count _, n => .count n
  | .list _, is => .intervals is
  | .purge _, n => .count n
  | .append _ _, i => .interval i
  | .applyDeletion _, _ => .nothing

/--
Lock a key and keep the token under a label. Leases may be taken on terms of their own.
-/
def lock (s : Session) (key label : String) (via : Via) (timeout ttl : Option Span) :
    Future × Session :=
  let own := s.ownTerms
  let terms : Terms := match via, s.world.backing with
    | .spare, _ => { own with via, timeout := .ofSeconds 10 }
    | .own, .memory _ => own
    | .own, .database _ => { own with timeout := timeout.getD own.timeout, ttl := ttl.getD own.ttl }
  s.runProgram terms <| (Call.lock key).perform.run.bind fun
    | .ok token => .done (.granted label token)
    | .error e => .done (.answered (.failed e))

def release (s : Session) (label : String) (via : Via) : Answer × Session :=
  match s.world.take? label with
  | none => (.unknownLabel, s)
  | some (token, world) =>
    let (result, world) := world.callRelease via token
    (.ofResult (fun _ => .nothing) result, { s with world })

/--
Start a sweeper and keep it under a label. One that was there is ended.
-/
def spawnSweeper (s : Session) (label : String) (retention : Retention) (intervalMillis : Nat) :
    Answer × Session :=
  if !retention.isSpan then (.panicked, s)
  else
    let s := match s.sweepers.find? (·.1 = label) with
      | some old => s.cancelTask old.2
      | none => s
    let (id, s) := s.addTask (.sweeping retention intervalMillis 0)
    (.ok .nothing, { s with sweepers := (label, id) :: s.sweepers.filter (·.1 ≠ label) })

def endSweeper (s : Session) (label : String) : Option (Nat × Session) :=
  (s.sweepers.find? (·.1 = label)).map fun found =>
    (found.2,
      { s.cancelTask found.2 with sweepers := s.sweepers.filter (·.1 ≠ label) })

def answerNow (s : Session) : Step → Answer × Session
  | .pointer monitor => (.ok (.pointer (s.world.pointer monitor)), s)
  | .release label via => s.release label via
  | .spawnSweeper label retention interval => s.spawnSweeper label retention interval
  | .dropSweeper label =>
    match s.endSweeper label with
    | some (_, s) => (.ok .nothing, s)
    | none => (.ok .nothing, s)
  | .dropToken label =>
    match s.world.take? label with
    | some (token, world) => (.ok .nothing, { s with world := world.drop token })
    | none => (.ok .nothing, s)
  | .activeKeys => (.ofResult .count s.world.activeKeys, s)
  | .clock at_ => (.ok .nothing, s.modifyWorld fun w => { w with clock := at_ })
  | .elapsed => (.ok (.elapsed s.world.elapsed), s)
  | .state => (.ok (.state s.world.state), s)
  | .fault f => (.ok .nothing, s.modifyWorld fun w => { w with faults := w.faults ++ [f] })
  | .clearFaults => (.ok .nothing, s.modifyWorld fun w => { w with faults := [] })
  | .leases => s.withWorld fun w => w.onLeases fun t => (.leases t.rows, t)
  | .deleteLeases => s.withWorld fun w => w.onLeases fun _ => (.nothing, {})
  | .updated => (s.world.updated, s)
  | .closePool => s.withWorld World.closePool
  | .spawn label step =>
    let (id, s) := s.addTask (.idle 0 (some step))
    (.ok .nothing, { s with labels := (label, id) :: s.labels.filter (·.1 ≠ label) })
  | .finished label =>
    (.ok (.finished ((s.labels.find? (·.1 = label)).map fun found => s.hasFinished found.2)), s)
  | .abort label =>
    match s.labels.find? (·.1 = label) with
    | some found => (.ok .nothing, s.cancelTask found.2)
    | none => (.unknownLabel, s)
  | .unreadable => (.unreadable, s)
  | _ => (.unknownLabel, s)

mutual

def isReady (s : Session) : Future → Bool
  | .finished _ => false
  | .idle wake _ => wake ≤ s.world.now
  | .running r => r.isReady s.world
  | .together fs => anyReady s fs
  | .bounded deadline f => deadline ≤ s.world.now || isReady s f
  | .joining task => s.hasFinished task
  | .stopping task => s.hasFinished task
  | .sweeping _ _ next => next ≤ s.world.now

def anyReady (s : Session) : List Future → Bool
  | [] => false
  | f :: fs => isReady s f || anyReady s fs

end

/--
Give a turn to every task that can go on and has none yet. Of tasks that a time lets go on, the one comes
first that has been waiting for it longest.
-/
def enqueue (s : Session) : Session :=
  let able := s.tasks.filter fun t =>
    t.future.answer?.isNone && (t.cancelled || s.isReady t.future) && !s.turns.contains t.id
  let sorted := able.mergeSort fun a b => a.alarmed s.world.now ≤ b.alarmed s.world.now
  { s with turns := s.turns ++ sorted.map (·.id) }

def noted (s : Session) : Future → Future
  | .finished (.traced a state) => .finished (.traced a state)
  | .finished a => .finished (if s.traced then .traced a s.world.state else a)
  | f => f

/--
Come back from a step that has got as far as it can: its answer is noted, and tasks that it lets go on get
their turns.
-/
def settled : Future × Session → Future × Session
  | (f, s) => (s.noted f, s.enqueue)

mutual

def cancel : Future → Session → Session
  | .running r, s => s.modifyWorld r.cancel
  | .together fs, s => cancelAll fs s
  | .bounded _ f, s => cancel f s
  | _, s => s

def cancelAll : List Future → Session → Session
  | [], s => s
  | f :: fs, s => cancelAll fs (cancel f s).enqueue

end

/--
Wait for a step until a time at the most, which may have come.
-/
def bound (deadline : Nat) : Future × Session → Future × Session
  | (.finished a, s) => (.finished (.joined a), s)
  | (f, s) =>
    if deadline ≤ s.world.now then (.finished .cancelled, cancel f s) else (.bounded deadline f, s)

mutual

def start : Step → Session → Future × Session
  | .record request, s => s.runOperation .change (s.world.settings.engine.record request)
  | .delete id, s => s.runOperation .deletion (s.world.settings.engine.delete id)
  | .get id, s => s.runOperation .interval (Engine.get id)
  | .timeline monitor, s => s.runOperation .intervals (Engine.timeline monitor)
  | .current monitor, s => s.runOperation .found (Engine.current monitor)
  | .audit monitor, s => s.runOperation .audited (Engine.audit monitor)
  | .append new close, s => s.runOperation .interval (s.world.settings.engine.append new close)
  | .applyDeletion plan, s =>
    s.runOperation (fun _ => .nothing) (s.world.settings.engine.applyDeletion plan)
  | .store c, s => s.runOperation (replyOf c) c.perform
  | .setPointer update, s => s.runOperation (fun _ => .nothing) (Call.setPointer update).perform
  | .sweepBefore cutoff, s => s.runOperation .count (Engine.sweepBefore cutoff)
  | .sweepOnce retention, s =>
    match retention.cutoff? s.world.clock with
    | some cutoff => s.runOperation .count (Engine.sweepBefore cutoff)
    | none => (.finished .panicked, s)
  | .shutdownSweeper label, s =>
    match s.endSweeper label with
    | some (id, s) => (if s.hasFinished id then .finished (.ok .nothing) else .stopping id, s)
    | none => (.finished .unknownLabel, s)
  | .lock key label via timeout ttl, s => s.lock key label via timeout ttl
  | .http request, s =>
    s.runProgram s.ownTerms <| (Http.handle s.world.settings.engine request).bind fun response =>
      .done (.answered (.ok (.response response)))
  | .sleep millis, s =>
    if millis = 0 then (.finished (.ok .nothing), s)
    else (.idle (s.world.now + millis) none, s)
  | .concurrent steps, s =>
    let (fs, s) := startAll steps s
    (.gathered fs, s)
  | .delayed millis step, s =>
    if millis = 0 then start step s else (.idle (s.world.now + millis) (some step), s)
  | .cancelAfter millis step, s =>
    bound (s.world.now + millis) (settled (start step s))
  | .join label, s =>
    match s.labels.find? (·.1 = label) with
    | some found =>
      let s := { s with labels := s.labels.filter (·.1 ≠ label) }
      match s.outcomeOf? found.2 with
      | some a => (.finished a, s)
      | none => (.joining found.2, s)
    | none => (.finished .unknownLabel, s)
  | step, s =>
    let (a, s) := s.answerNow step
    (.finished a, s)

def startAll : List Step → Session → List Future × Session
  | [], s => ([], s)
  | step :: steps, s =>
    let (f, s) := settled (start step s)
    let (fs, s) := startAll steps s
    (f :: fs, s)

end

/--
Sweep once, and tell whether the sweeper goes on: it does when the sweep fails, but not when there is no
cutoff.
-/
def sweep (s : Session) (retention : Retention) : Bool × Session :=
  match retention.cutoff? s.world.clock with
  | none => (false, s)
  | some cutoff =>
    let (_, s) := s.runOperation .count (Engine.sweepBefore cutoff)
    (true, s)

mutual

def poll : Future → Session → Future × Session
  | .finished a, s => (.finished a, s)
  | .idle wake next, s =>
    if wake ≤ s.world.now then
      match next with
      | none => (.finished (.ok .nothing), s)
      | some step => start step s
    else (.idle wake next, s)
  | .running r, s =>
    let (progress, s) := s.withWorld r.resume
    (.ofProgress progress, s)
  | .together fs, s =>
    let (fs, s) := pollAll fs s
    (.gathered fs, s)
  | .bounded deadline f, s =>
    bound deadline (settled (poll f s))
  | .joining task, s =>
    match s.outcomeOf? task with
    | some a => (.finished a, s)
    | none => (.joining task, s)
  | .stopping task, s =>
    if s.hasFinished task then (.finished (.ok .nothing), s) else (.stopping task, s)
  | .sweeping retention interval next, s =>
    if interval = 0 then (.finished .panicked, s)
    else if next ≤ s.world.now then
      match s.sweep retention with
      | (true, s) => (.sweeping retention interval (s.world.now + interval), s)
      | (false, s) => (.finished .panicked, s)
    else (.sweeping retention interval next, s)

def pollAll : List Future → Session → List Future × Session
  | [], s => ([], s)
  | f :: fs, s =>
    let (f, s) := settled (poll f s)
    let (fs, s) := pollAll fs s
    (f :: fs, s)

end

end Session

end StatusTimeline.Simulation
