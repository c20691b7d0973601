import StatusTimeline.Simulation.Future

/-!
This module contains the playing of scripts. A step runs until it has to wait; then the tasks get their
turns, those first that could go on first; and when nothing can run, time jumps to the next event. What an
event lets go on, the step does before the tasks do.
-/

namespace StatusTimeline.Simulation

namespace Session

def setFuture (s : Session) (task : Nat) (future : Future) : Session :=
  { s with tasks := s.tasks.map fun t => if t.id = task then t.proceed future s.turnCount else t }

def cutOff (s : Session) (task : Nat) : Session :=
  { s with
    tasks := s.tasks.map fun t =>
      if t.id = task then { t with future := .finished .cancelled, cutOff := true } else t }

def turn (s : Session) (task : Nat) : Session :=
  match s.tasks.find? (·.id = task) with
  | none => s
  | some t =>
    if t.future.answer?.isSome then s
    else if t.cancelled then (cancel t.future s).cutOff task
    else
      let (future, s) := settled (poll t.future { s with turnCount := s.turnCount + 1 })
      s.setFuture task future

/--
How many turns the tasks may have before the step that is waited for has one.
-/
def turnsInARow : Nat := 61

/--
Let the tasks have their turns until none is left, or so many of them.
-/
def takeTurns : Nat → Session → Session
  | 0, s => s
  | fuel + 1, s =>
    match s.turns with
    | [] => s
    | task :: turns => takeTurns fuel (({ s with turns }.turn task).enqueue)

def earliest : Option Nat → Option Nat → Option Nat
  | some a, some b => some (min a b)
  | a, b => a <|> b

def nextEvent (s : Session) (f : Future) : Option Nat :=
  let ofTasks := s.tasks.foldl (fun t task => earliest t task.future.nextWake) none
  let ofRenewals := s.world.renewals.foldl (fun t r => earliest t (some r.due)) none
  earliest f.nextWake (earliest ofTasks ofRenewals)

/--
Wait for a step, for as many events as `fuel` allows. A step for which nothing will ever happen is given up.
-/
def wait : Nat → Future → Session → Answer × Session
  | 0, _, s => (.cancelled, s)
  | fuel + 1, f, s =>
    match f.answer? with
    | some a => (a, s)
    | none =>
      let s := takeTurns turnsInARow s
      if s.isReady f then
        let (f, s) := settled (poll f s)
        wait fuel f s
      else if !s.turns.isEmpty then wait fuel f s
      else
        match s.nextEvent f with
        | none => (.cancelled, s)
        | some time =>
          let s := (s.modifyWorld fun w => w.advance (max time w.now)).enqueue
          let (f, s) := if s.isReady f then settled (poll f s) else (f, s)
          wait fuel f s

def manyEvents : Nat := 1000000000000

def play (s : Session) (step : Step) : Answer × Session :=
  let (f, s) := settled (start step s)
  wait manyEvents f s

/--
Play a script: the answers to its steps, and how things stand at the end.
-/
def playAll : Session → List Step → List Answer × Session
  | s, [] => ([], s)
  | s, step :: steps =>
    let (a, s) := s.play step
    let (rest, s) := playAll s steps
    (a :: rest, s)

end Session

end StatusTimeline.Simulation
